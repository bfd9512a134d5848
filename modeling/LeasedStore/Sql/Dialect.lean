/-
The two dialects of SQL, which differ in how a member of a JSON document is taken out as text.

* `Dialect.ofUrl`: the dialect of a database address, by its scheme;
* `Binding`: building conditions while parameters are registered, which stay registered even if
  the building fails;
* `Expr`: a column, or a member along a bound path or along bound keys;
* `Dialect.memberText`: the expression for a member, its keys registered.
-/
import LeasedStore.Error
import LeasedStore.Sql.Statement
import LeasedStore.Sql.JsonPath

namespace LeasedStore

/-- A dialect of SQL. -/
inductive Dialect where
  | postgres | sqlite
  deriving DecidableEq, Repr

/-- An expression in a condition. -/
inductive Expr where
  | column (name : String)
  /-- The text of the member of a document along a path. -/
  | pathText (column : String) (path : Placeholder)
  /-- The text of the member of a document along one key after the other. -/
  | keysText (column : String) (keys : List Placeholder)
  deriving DecidableEq, Repr

namespace Expr

/-- The steps along keys, the last of which takes the text out. -/
def stepsSql : List Placeholder → String
  | [] => ""
  | [key] => " ->> " ++ key.sql
  | key :: rest => " -> " ++ key.sql ++ stepsSql rest

/-- An expression as SQL text. -/
def sql : Expr → String
  | column name => name
  | pathText c path => "CAST(json_extract(" ++ c ++ ", " ++ path.sql ++ ") AS TEXT)"
  | keysText c keys => "(" ++ c ++ "::json" ++ stepsSql keys ++ ")"

/-- The placeholders of an expression, in their order. -/
def placeholders : Expr → List Placeholder
  | column _ => []
  | pathText _ path => [path]
  | keysText _ keys => keys

end Expr

/-! ### Registering parameters -/

/-- Building something while parameters are registered; they stay registered if it fails. -/
abbrev Binding (α : Type) := ExceptT QueryError (StateM (List Param)) α

namespace Binding

/-- The place of one more parameter. -/
def register (p : Param) : Binding Placeholder := fun params =>
  (.ok ⟨params.length + 1⟩, params ++ [p])

/-- The places of some more parameters. -/
def registerAll : List Param → Binding (List Placeholder)
  | [] => pure []
  | p :: rest => do
    let place ← register p
    return place :: (← registerAll rest)

/-- Something that may fail without parameters. -/
def lift {α : Type} (r : Except QueryError α) : Binding α := fun params => (r, params)

/-- The result, and the parameters registered behind those that were there. -/
def runOn {α : Type} (b : Binding α) (params : List Param) : Except QueryError α × List Param :=
  b params

/-- The result with all its parameters, or the error. -/
def bound {α : Type} (b : Binding α) : Except QueryError (α × List Param) :=
  match b.runOn [] with
  | (.ok a, params) => .ok (a, params)
  | (.error e, _) => .error e

end Binding

namespace Dialect

/-- The characters of a text in front of the first colon. -/
def scheme (url : String) : String := String.ofList (url.toList.takeWhile (· ≠ ':'))

/-- The dialect of a database address. -/
def ofUrl (url : String) : Except StoreError Dialect :=
  match scheme url with
  | "postgres" => .ok postgres
  | "postgresql" => .ok postgres
  | "sqlite" => .ok sqlite
  | other => .error (.unexpected (.unsupportedScheme other))

/-- The name of the database that speaks a dialect. -/
def backendName : Dialect → String
  | postgres => "postgres"
  | sqlite => "sqlite"

/-- The text of the member of a column along some keys. -/
def memberText (d : Dialect) (column : String) (keys : List String) : Binding Expr :=
  match d with
  | postgres => do
    return .keysText column (← Binding.registerAll (keys.map Param.text))
  | sqlite => do
    return .pathText column (← Binding.register (.text (JsonPath.text keys)))

end Dialect

end LeasedStore
