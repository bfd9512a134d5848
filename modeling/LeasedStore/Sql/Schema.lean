/-
The tables of entities: their definition and the statements on single rows.

* `TableMapping.insertSql`, `updateSql`, `selectByIdSql`, `deleteSql`: statements on a row; the
  first two bind one and the same list of parameters, one for each column in its order;
* `TableDef`: a table as the database knows it, and `TableDef.ddl`, the statements that create it;
* `EntitySchema`: the kind, the mapping and the table of a type of entities.
-/
import LeasedStore.Sql.Mapping
import LeasedStore.Sql.Statement

namespace LeasedStore

namespace TableMapping

/-- The columns of a table with the places of their parameters. -/
def placed (m : TableMapping) : List (Column × Placeholder) :=
  m.columns.zip (Placeholder.upTo m.columns.length)

/-- The statement that puts in a row. -/
def insertSql (m : TableMapping) : String :=
  "INSERT INTO " ++ m.table ++ " (" ++ m.columnList ++ ") VALUES (" ++
    ", ".intercalate (m.placed.map fun c => c.2.sql) ++ ")"

/-- The columns that an update assigns, with the places of their parameters. -/
def assignments (m : TableMapping) : List (Column × Placeholder) :=
  m.placed.filter fun c => c.1.name ≠ m.idColumn

/-- The place of the parameter that an update compares the id with. -/
def idPlace? (m : TableMapping) : Option Placeholder :=
  ((m.placed.filter fun c => c.1.name = m.idColumn).getLast?).map Prod.snd

/-- The statement that overwrites a row. -/
def updateSql (m : TableMapping) : String :=
  "UPDATE " ++ m.table ++ " SET " ++
    ", ".intercalate (m.assignments.map fun c => c.1.name ++ " = " ++ c.2.sql) ++
    " WHERE " ++ m.idColumn ++ " = " ++ (m.idPlace?.map Placeholder.sql).getD ""

/-- The statement that reads the row of an id. -/
def selectByIdSql (m : TableMapping) : String :=
  "SELECT " ++ m.columnList ++ " FROM " ++ m.table ++ " WHERE " ++ m.idColumn ++ " = $1"

/-- The statement that removes the row of an id. -/
def deleteSql (m : TableMapping) : String :=
  "DELETE FROM " ++ m.table ++ " WHERE " ++ m.idColumn ++ " = $1"

end TableMapping

/-- The types of columns in a table. -/
inductive StorageType where
  | text | bigint
  deriving DecidableEq, Repr

/-- The name of a storage type in SQL. -/
def StorageType.sql : StorageType → String
  | text => "TEXT"
  | bigint => "BIGINT"

/-- A column as the database knows it. -/
structure ColumnDef where
  name : String
  storage : StorageType
  /-- Is null refused? -/
  isRequired : Bool
  deriving DecidableEq, Repr

/-- A table as the database knows it; its key is a single column. -/
structure TableDef where
  name : String
  key : String
  columns : List ColumnDef
  /-- The names of its indexes and the columns that each of them orders. -/
  indexes : List (String × List String)
  deriving DecidableEq, Repr

namespace TableDef

/-- A column as it stands in the statement that creates its table. -/
def columnSql (t : TableDef) (c : ColumnDef) : String :=
  c.name ++ " " ++ c.storage.sql ++
    (if c.name = t.key then " PRIMARY KEY" else if c.isRequired then " NOT NULL" else "")

/-- The statement that creates the table unless it is there. -/
def createSql (t : TableDef) : String :=
  "CREATE TABLE IF NOT EXISTS " ++ t.name ++ " (" ++ ", ".intercalate (t.columns.map t.columnSql) ++
    ")"

/-- The statement that creates an index unless it is there. -/
def indexSql (t : TableDef) (index : String × List String) : String :=
  "CREATE INDEX IF NOT EXISTS " ++ index.1 ++ " ON " ++ t.name ++ " (" ++
    ", ".intercalate index.2 ++ ")"

/-- The statements that create the table and its indexes. -/
def ddl (t : TableDef) : List String := t.createSql :: t.indexes.map t.indexSql

end TableDef

/-- How a type of entities lies in the database. -/
structure EntitySchema where
  /-- The kind of the entities, which is the kind of their leases too. -/
  kind : String
  mapping : TableMapping
  /-- The columns that may be null. -/
  nullable : List String
  /-- The names of the indexes behind the table's own, and their columns. -/
  indexes : List (String × List String)
  deriving DecidableEq, Repr

namespace EntitySchema

/-- A column of a mapping as the database knows it. -/
def columnDef (s : EntitySchema) (c : Column) : ColumnDef where
  name := c.name
  storage := match c.kind with
    | .integer => .bigint
    | _ => .text
  isRequired := c.name ≠ s.mapping.idColumn && !s.nullable.contains c.name

/-- The table of the entities. -/
def tableDef (s : EntitySchema) : TableDef where
  name := s.mapping.table
  key := s.mapping.idColumn
  columns := s.mapping.columns.map s.columnDef
  indexes := s.indexes.map fun i => (s.mapping.table ++ "_" ++ i.1, i.2)

end EntitySchema

end LeasedStore
