/-
Conditions: criteria in the words of a table.

* `Condition`: a comparison, membership in a list, what never holds, the absence of a lease;
* `Condition.sql`: a condition as SQL text;
* `coerce`: an operand as a parameter for a column of some kind;
* `Criterion.condition`, `filterConditions`: the conditions of criteria, their parameters
  registered.

Only names that the mapping declares and placeholders reach the text; operands and the keys of
members are parameters.
-/
import LeasedStore.Sql.Dialect
import LeasedStore.Sql.Mapping
import LeasedStore.Query.Spec

namespace LeasedStore

/-- A condition on the rows of a table. -/
inductive Condition where
  | compare (e : Expr) (c : Comparison) (operand : Placeholder)
  | oneOf (e : Expr) (operands : List Placeholder)
  | never
  /-- No lease of a resource kind is active at an instant for the entity of the row. -/
  | unleased (idExpr : String) (kind now : Placeholder)
  deriving DecidableEq, Repr

namespace Condition

/-- A condition as SQL text. -/
def sql : Condition → String
  | compare e c operand => e.sql ++ " " ++ c.sql ++ " " ++ operand.sql
  | oneOf e operands => e.sql ++ " IN (" ++ ", ".intercalate (operands.map Placeholder.sql) ++ ")"
  | never => "1 = 0"
  | unleased idExpr kind now =>
    "NOT EXISTS (SELECT 1 FROM harbor_lease l WHERE l.resource_kind = " ++ kind.sql ++
      " AND l.entity_id = " ++ idExpr ++ " AND l.leased_at + l.lease_duration >= " ++ now.sql ++ ")"

/-- The placeholders of a condition, in the order of its text. -/
def placeholders : Condition → List Placeholder
  | compare e _ operand => e.placeholders ++ [operand]
  | oneOf e operands => e.placeholders ++ operands
  | never => []
  | unleased _ kind now => [kind, now]

end Condition

/-- An operand as a parameter for a property of a table.  Integer columns take integers and texts
that stand for one; all others take texts and the numerals of integers. -/
def coerce (table property : String) (kind : ColumnKind) : Operand → Except QueryError Param
  | .int n => .ok (match kind with
    | .integer => .int n
    | _ => .text (Numeral.ofInt64 n))
  | .text s =>
    match kind with
    | .integer =>
      match Numeral.int64? s with
      | some n => .ok (.int n)
      | none => .error (.notAnInteger property table s)
    | _ => .ok (.text s)
  | .list _ => .error (.listOperand property)

/-- The operands that membership is about; a single one counts as a list of one. -/
def Operand.items : Operand → List Operand
  | .list os => os
  | o => [o]

namespace Criterion

/-- The places of some operands, each of them coerced before it is registered. -/
def registerOperands (table property : String) (kind : ColumnKind) :
    List Operand → Binding (List Placeholder)
  | [] => pure []
  | o :: rest => do
    let place ← Binding.register (← Binding.lift (coerce table property kind o))
    return place :: (← registerOperands table property kind rest)

/-- The expression for what a criterion looks at. -/
def targetExpr (d : Dialect) : Target → Binding Expr
  | .column c => pure (.column c.name)
  | .member c keys => d.memberText c.name keys

/-- The condition that an operator puts on an expression of some kind. -/
def conditionOn (table : String) (c : Criterion) (kind : ColumnKind) (e : Expr) :
    Binding Condition :=
  match c.operator with
  | .oneOf =>
    if c.operand.items.isEmpty then pure .never
    else do return .oneOf e (← registerOperands table c.property kind c.operand.items)
  | .compare op =>
    if op = .like ∧ kind ≠ .text then throw (.likeUnsupported c.property)
    else do
      let place ← Binding.register (← Binding.lift (coerce table c.property kind c.operand))
      return .compare e op place

/-- The condition of a criterion. -/
def condition (m : TableMapping) (d : Dialect) (c : Criterion) : Binding Condition :=
  match m.target? c.property with
  | none => throw (.unknownProperty c.property m.table)
  | some target => do conditionOn m.table c target.kind (← targetExpr d target)

end Criterion

/-- The conditions of criteria, in their order. -/
def filterConditions (m : TableMapping) (d : Dialect) : List Criterion → Binding (List Condition)
  | [] => pure []
  | c :: rest => do
    let condition ← c.condition m d
    return condition :: (← filterConditions m d rest)

end LeasedStore
