/-
Queries: which rows, in which order, which part of them.

* `Select`: what a query reads, and `Select.sql`, its text;
* `TableMapping.order`: the order of a specification, by id where it leaves rows apart undecided;
* `TableMapping.select`, `TableMapping.count`: the queries of a specification and of a filter;
* `Select.Bound`: a query with its parameters, and the statement that it is.
-/
import LeasedStore.Sql.Condition

namespace LeasedStore

/-- What a query reads of the rows. -/
inductive Projection where
  | columns (names : List String)
  | count
  deriving DecidableEq, Repr

/-- A query on one table. -/
structure Select where
  projection : Projection
  table : String
  conditions : List Condition
  order : List (String × SortOrder)
  limit : Option Placeholder
  offset : Option Placeholder
  deriving DecidableEq, Repr

/-- The sort columns of a query as SQL text; nothing if there are none. -/
def orderText (order : List (String × SortOrder)) : String :=
  if order.isEmpty then ""
  else " ORDER BY " ++ ", ".intercalate (order.map fun o => o.1 ++ " " ++ o.2.name)

namespace Select

/-- A query as SQL text. -/
def sql (q : Select) : String :=
  let head := match q.projection with
    | .columns names => "SELECT " ++ ", ".intercalate names ++ " FROM " ++ q.table
    | .count => "SELECT COUNT(*) FROM " ++ q.table
  let part (word : String) (p : Option Placeholder) := match p with
    | some p => word ++ p.sql
    | none => ""
  head ++ whereText (q.conditions.map Condition.sql) ++ orderText q.order ++
    part " LIMIT " q.limit ++ part " OFFSET " q.offset

/-- A query with its parameters. -/
structure Bound where
  query : Select
  params : List Param
  deriving DecidableEq, Repr

/-- The statement of a query with its parameters. -/
def Bound.statement (b : Bound) : Statement := ⟨b.query.sql, b.params⟩

/-- A query whose building registered its parameters. -/
def Bound.of (b : Binding Select) : Except QueryError Bound :=
  b.bound.map fun r => ⟨r.1, r.2⟩

end Select

namespace TableMapping

/-- The sort columns of a specification; the id decides where they leave rows apart undecided. -/
def order (m : TableMapping) (spec : QuerySpec) : Except QueryError (List (String × SortOrder)) :=
  match spec.sortField with
  | none => .ok [(m.idColumn, .ascending)]
  | some property =>
    match m.plainColumn? property with
    | none => .error (.unknownProperty property m.table)
    | some c =>
      if c.name = m.idColumn then .ok [(c.name, spec.sortOrder)]
      else .ok [(c.name, spec.sortOrder), (m.idColumn, .ascending)]

/-- A number of rows as a parameter. -/
def countParam (n : UInt32) : Param := .int n.toUInt64.toInt64

/-- The query of a specification, with limit and offset as its last parameters. -/
def selectBinding (m : TableMapping) (d : Dialect) (spec : QuerySpec) : Binding Select := do
  let conditions ← filterConditions m d spec.filter
  let order ← Binding.lift (m.order spec)
  let limit ← Binding.register (countParam spec.limit)
  let offset ← Binding.register (countParam spec.offset)
  return ⟨.columns m.columnNames, m.table, conditions, order, some limit, some offset⟩

/-- The query of a specification. -/
def select (m : TableMapping) (d : Dialect) (spec : QuerySpec) : Except QueryError Select.Bound :=
  Select.Bound.of (m.selectBinding d spec)

/-- The query that counts the rows that match a filter. -/
def count (m : TableMapping) (d : Dialect) (filter : List Criterion) :
    Except QueryError Select.Bound :=
  Select.Bound.of do
    return ⟨.count, m.table, ← filterConditions m d filter, [], none, none⟩

end TableMapping

end LeasedStore
