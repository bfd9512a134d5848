/-
How a criterion compares a property with its operand.

* `Comparison`: equality, order and likeness;
* `Operator`: a comparison with one operand, or membership in a list of them;
* `Operator.parse`: the operator that a text names, blanks around it and capital letters aside;
* `Operator.symbol`, `Comparison.sql`: its name in criteria, its name in SQL.
-/
import LeasedStore.Json.Decoder
import LeasedStore.Text.Blank

namespace LeasedStore

/-- Why a query cannot be carried out. -/
inductive QueryError where
  | unknownOperator (text : String)
  /-- A property that the table does not have, or that cannot be used there. -/
  | unknownProperty (property table : String)
  | notAnInteger (property table got : String)
  /-- A list of values where a single one belongs. -/
  | listOperand (property : String)
  | likeUnsupported (property : String)
  deriving DecidableEq, Repr

/-- The wording of a query error. -/
def QueryError.message : QueryError → String
  | .unknownOperator text => "unsupported operator '" ++ text ++ "'"
  | .unknownProperty p t => "translation failed: unknown property '" ++ p ++ "' on " ++ t
  | .notAnInteger p t got =>
    "translation failed: '" ++ p ++ "' on " ++ t ++ " expects an integer, got '" ++ got ++ "'"
  | .listOperand p =>
    "translation failed: list operand is only valid with 'in' for '" ++ p ++ "'"
  | .likeUnsupported p => "translation failed: 'like' is not supported on '" ++ p ++ "'"

/-- How a property is compared with a single operand. -/
inductive Comparison where
  | equal | notEqual | less | lessOrEqual | greater | greaterOrEqual
  /-- The property is like a pattern. -/
  | like
  deriving DecidableEq, Repr

/-- How a property is compared with an operand. -/
inductive Operator where
  | compare (c : Comparison)
  /-- The property is one of a list. -/
  | oneOf
  deriving DecidableEq, Repr

namespace Comparison

/-- The name of a comparison in criteria. -/
def symbol : Comparison → String
  | equal => "="
  | notEqual => "!="
  | less => "<"
  | lessOrEqual => "<="
  | greater => ">"
  | greaterOrEqual => ">="
  | like => "like"

/-- The name of a comparison in SQL. -/
def sql : Comparison → String
  | notEqual => "<>"
  | like => "LIKE"
  | c => c.symbol

end Comparison

namespace Operator

/-- Equality. -/
def equal : Operator := compare .equal

/-- Inequality. -/
def notEqual : Operator := compare .notEqual

/-- Likeness. -/
def like : Operator := compare .like

/-- The name of an operator in criteria. -/
def symbol : Operator → String
  | compare c => c.symbol
  | oneOf => "in"

/-- The operator that a text names, blanks around it and capital letters aside. -/
def parse (text : String) : Except QueryError Operator :=
  match Text.lowerAscii (Text.trimBlanks text) with
  | "=" => .ok equal
  | "!=" => .ok notEqual
  | "<>" => .ok notEqual
  | "<" => .ok (compare .less)
  | "<=" => .ok (compare .lessOrEqual)
  | ">" => .ok (compare .greater)
  | ">=" => .ok (compare .greaterOrEqual)
  | "like" => .ok like
  | "in" => .ok oneOf
  | other => .error (.unknownOperator other)

/-! ### JSON form -/

/-- The names that a document may use. -/
def table : List (String × Operator) :=
  [("=", equal), ("!=", notEqual), ("<", compare .less), ("<=", compare .lessOrEqual),
    (">", compare .greater), (">=", compare .greaterOrEqual), ("LIKE", like), ("like", like),
    ("IN", oneOf), ("in", oneOf)]

/-- An operator from its name. -/
def decode : Json.Decoder Operator := Json.Decoder.choice table (table.map Prod.fst)

/-- An operator as its name. -/
def toJson (o : Operator) : Json := .string o.symbol

end Operator

end LeasedStore
