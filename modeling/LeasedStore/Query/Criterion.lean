/-
Criteria: what a property has to be for an entity to match.

* `Operand`: an integer, a text, or a list of operands;
* `Criterion`: a property, an operator and an operand;
* `Criterion.parse`: the same with the operator given by its name.
-/
import LeasedStore.Query.Operator

namespace LeasedStore

/-- What a property is compared with. -/
inductive Operand where
  | int (n : Int64)
  | text (s : String)
  | list (items : List Operand)
  deriving Inhabited, Repr

namespace Operand

mutual

/-- An operand as a JSON value. -/
def toJson : Operand → Json
  | .int n => .ofInt64 n
  | .text s => .string s
  | .list items => .array (itemsToJson items)

/-- Operands as JSON values. -/
def itemsToJson : List Operand → List Json
  | [] => []
  | o :: rest => toJson o :: itemsToJson rest

end

mutual

/-- The operand that a JSON value stands for. -/
def ofJson? : Json → Option Operand
  | .number (.int n _) => (Numeral.fitInt64? n).map .int
  | .string s => some (.text s)
  | .array items => (itemsOfJson? items).map .list
  | _ => none

/-- The operands that JSON values stand for. -/
def itemsOfJson? : List Json → Option (List Operand)
  | [] => some []
  | j :: rest =>
    match ofJson? j, itemsOfJson? rest with
    | some o, some os => some (o :: os)
    | _, _ => none

end

/-- An operand from a document, which is looked through for faults before anything else. -/
def decode : Json.Decoder Operand := fun _ d =>
  match Json.Decoder.asJson d with
  | .error f => .error f
  | .ok j =>
    match ofJson? j with
    | some o => .ok o
    | none => .error (.noForm "CriterionValue")

mutual

/-- Decides whether two operands are equal. -/
def decEq : (a b : Operand) → Decidable (a = b)
  | .int m, .int n =>
    if h : m = n then .isTrue (h ▸ rfl) else .isFalse fun e => h (by injection e)
  | .text s, .text t =>
    if h : s = t then .isTrue (h ▸ rfl) else .isFalse fun e => h (by injection e)
  | .list xs, .list ys =>
    match decEqItems xs ys with
    | .isTrue h => .isTrue (h ▸ rfl)
    | .isFalse h => .isFalse fun e => h (by injection e)
  | .int _, .text _ => .isFalse (by simp)
  | .int _, .list _ => .isFalse (by simp)
  | .text _, .int _ => .isFalse (by simp)
  | .text _, .list _ => .isFalse (by simp)
  | .list _, .int _ => .isFalse (by simp)
  | .list _, .text _ => .isFalse (by simp)

/-- Decides whether two lists of operands are equal. -/
def decEqItems : (xs ys : List Operand) → Decidable (xs = ys)
  | [], [] => .isTrue rfl
  | [], _ :: _ => .isFalse (by simp)
  | _ :: _, [] => .isFalse (by simp)
  | x :: xs, y :: ys =>
    match decEq x y, decEqItems xs ys with
    | .isTrue h, .isTrue hs => .isTrue (by rw [h, hs])
    | .isFalse h, _ => .isFalse fun e => h (by injection e)
    | _, .isFalse hs => .isFalse fun e => hs (by injection e)

end

instance : DecidableEq Operand := decEq

end Operand

/-- What a property has to be. -/
structure Criterion where
  property : String
  operator : Operator
  operand : Operand
  deriving DecidableEq, Repr

namespace Criterion

/-- The property equals the operand. -/
def equals (property : String) (operand : Operand) : Criterion :=
  ⟨property, Operator.equal, operand⟩

/-- A criterion whose operator is given by its name. -/
def parse (property operator : String) (operand : Operand) : Except QueryError Criterion :=
  (Operator.parse operator).map fun o => ⟨property, o, operand⟩

/-- A criterion as a JSON object. -/
def toJson (c : Criterion) : Json :=
  .object [("operandLeft", .string c.property), ("operator", c.operator.toJson),
    ("operandRight", c.operand.toJson)]

/-- The fields of a criterion. -/
def record : Json.Record Criterion :=
  mk <$> Json.Record.field "operandLeft" Json.Decoder.string
    <*> Json.Record.field "operator" Operator.decode
    <*> Json.Record.field "operandRight" Operand.decode

/-- A criterion from a document. -/
def decode : Json.Decoder Criterion := record.decoder ⟨"Criterion", 3⟩

/-- Criteria as a JSON array. -/
def listToJson (cs : List Criterion) : Json := .array (cs.map toJson)

end Criterion

end LeasedStore
