/-
How the properties of an entity lie in the columns of its table.

* `Column`: a column, the property that it holds and the kind of its content;
* `TableMapping`: the columns of a table, its id column and the column whose members can be queried;
* `TableMapping.column?`: the first column that holds a property;
* `TableMapping.target?`: what a criterion on a property looks at, a column or a member of a JSON
  document.
-/
import LeasedStore.Sql.JsonPath

namespace LeasedStore

/-- What a column holds. -/
inductive ColumnKind where
  | text | integer
  /-- The text of a JSON document; criteria reach its members only. -/
  | json
  deriving DecidableEq, Repr

/-- A column and the property that it holds. -/
structure Column where
  property : String
  name : String
  kind : ColumnKind
  deriving DecidableEq, Repr

/-- The columns of a table and the properties that they hold. -/
structure TableMapping where
  table : String
  idColumn : String
  columns : List Column
  /-- The property of the JSON column whose members can be queried. -/
  jsonMembers : Option String
  deriving DecidableEq, Repr

/-- What a criterion looks at. -/
inductive Target where
  | column (c : Column)
  | member (c : Column) (keys : List String)
  deriving DecidableEq, Repr

/-- The kind of what a criterion looks at; members of documents count as text. -/
def Target.kind : Target → ColumnKind
  | column c => c.kind
  | member .. => .text

/-- The rest of a text behind its start. -/
def stripStart? : List Char → List Char → Option (List Char)
  | [], s => some s
  | _ :: _, [] => none
  | p :: ps, c :: s => if p = c then stripStart? ps s else none

namespace TableMapping

/-- The names of the columns, in their order. -/
def columnNames (m : TableMapping) : List String := m.columns.map Column.name

/-- The columns as SQL lists them. -/
def columnList (m : TableMapping) : String := ", ".intercalate m.columnNames

/-- The property that the id column holds. -/
def idProperty (m : TableMapping) : String :=
  match m.columns.find? fun c => c.name = m.idColumn with
  | some c => c.property
  | none => m.idColumn

/-- The first column that holds a property. -/
def column? (m : TableMapping) (property : String) : Option Column :=
  m.columns.find? fun c => c.property = property

/-- The keys of a property that is the path to a member: behind the property of the column and a
point, separated by points, each of them a key that a path can address. -/
def memberKeys? (column : Column) (property : String) : Option (List String) := do
  let path ← stripStart? (column.property.toList ++ ['.']) property.toList
  let keys := splitOn '.' path
  if keys.all JsonPath.isKey then some (keys.map String.ofList) else none

/-- The member of a document that a property is the path to. -/
def member? (m : TableMapping) (property : String) : Option Target := do
  let column ← m.column? (← m.jsonMembers)
  let keys ← memberKeys? column property
  return .member column keys

/-- The column that a property can be compared or sorted by. -/
def plainColumn? (m : TableMapping) (property : String) : Option Column :=
  (m.column? property).filter fun c => c.kind ≠ .json

/-- What a criterion on a property looks at. -/
def target? (m : TableMapping) (property : String) : Option Target :=
  match m.plainColumn? property with
  | some c => some (.column c)
  | none => m.member? property

end TableMapping

end LeasedStore
