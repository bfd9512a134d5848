/-
What queries mean.

It is said of entities and their properties alone: there are no tables, no columns and no
parameters in it.

* `PropertyValue`: an integer, or a text that may be absent;
* `Json.along?`, `Json.scalarText?`: the member of a document along some keys, and its text;
* `Criterion.isMet`: does a value satisfy a criterion?
* `PropertyValue.order`: absent texts first, integers by size, texts by their bytes;
* `QueriedEntity`, `QueriedEntity.value`: the properties of an entity;
* `QuerySpec.order`: how a specification orders entities;
* `QuerySpec.found`, `QuerySpec.answer`: the entities that match a specification, and the part of
  them that it asks for.
-/
import LeasedStore.Entity.Basic
import LeasedStore.Sql.Condition
import LeasedStore.Sql.Like

namespace LeasedStore

/-! ### Members of documents -/

namespace Json

/-- The member of an object under a key. -/
def member? (key : String) : Json → Option Json
  | object members => members.lookup key
  | _ => none

/-- The value along some keys, one inside the other. -/
def along? : List String → Json → Option Json
  | [], j => some j
  | key :: keys, j => (j.member? key).bind (along? keys)

/-- The text that a string or an integer counts as. -/
def scalarText? : Json → Option String
  | string s => some s
  | number (.int n _) => some (Numeral.ofInt n)
  | _ => none

/-- Is the value a string, a signed word or null? -/
def IsScalar : Json → Prop
  | null => True
  | string _ => True
  | number (.int n _) => Numeral.FitsInt64 n
  | _ => False

end Json

/-! ### Criteria -/

/-- The value of a property: an integer, or a text that may be absent. -/
inductive PropertyValue where
  | int (n : Int64)
  | text (s : Option String)
  deriving DecidableEq, Repr

namespace Operand

/-- An operand read as an integer. -/
def int? : Operand → Option Int64
  | int n => some n
  | text s => Numeral.int64? s
  | list _ => none

/-- An operand as a text, that of an integer being its numeral. -/
def text? : Operand → Option String
  | int n => some (Numeral.ofInt64 n)
  | text s => some s
  | list _ => none

end Operand

/-- How two texts are ordered by their bytes. -/
def Text.order (s t : String) : Ordering := compare (Text.bytes s.toList) (Text.bytes t.toList)

/-- Does a comparison accept how a value and its operand are ordered?  Likeness is no matter of
order. -/
def Comparison.accepts : Comparison → Ordering → Bool
  | equal, o => o = .eq
  | notEqual, o => o ≠ .eq
  | less, o => o = .lt
  | lessOrEqual, o => o ≠ .gt
  | greater, o => o = .gt
  | greaterOrEqual, o => o ≠ .lt
  | like, _ => false

/-- Does a comparison hold between two texts? -/
def Comparison.holdsOfTexts (c : Comparison) (s t : String) : Bool :=
  match c with
  | like => isLike (Text.codes s.toList) (Text.codes t.toList)
  | c => c.accepts (Text.order s t)

/-- Does a value satisfy a criterion?  A text that is absent satisfies none. -/
def Criterion.isMet (c : Criterion) : PropertyValue → Bool
  | .int n =>
    match c.operator with
    | .compare op => c.operand.int?.any fun m => op.accepts (compare n m)
    | .oneOf => c.operand.items.any fun o => o.int? = some n
  | .text none => false
  | .text (some s) =>
    match c.operator with
    | .compare op => c.operand.text?.any fun t => op.holdsOfTexts s t
    | .oneOf => c.operand.items.any fun o => o.text? = some s

/-! ### Properties -/

namespace PropertyValue

/-- The order of values: absent texts first, integers by size, texts by their bytes. -/
def order : PropertyValue → PropertyValue → Ordering
  | text none, text none => .eq
  | text none, _ => .lt
  | _, text none => .gt
  | int m, int n => compare m n
  | int _, text _ => .lt
  | text _, int _ => .gt
  | text (some s), text (some t) => Text.order s t

end PropertyValue

/-- A type of entities that are queried by their properties. -/
class QueriedEntity (α : Type) where
  /-- The properties of an entity, members of its document aside. -/
  properties : α → List (String × PropertyValue)
  /-- The property that is a document with members that can be queried, and the document. -/
  document? : Option (String × (α → Json))

namespace QueriedEntity

variable {α : Type} [QueriedEntity α]

/-- The document of an entity, and the keys in it that a property is the path along: they stand
behind the name of the document, separated by points. -/
def path? (e : α) (property : String) : Option (Json × List String) := do
  let (name, document) ← (document? : Option (String × (α → Json)))
  let path ← stripStart? (name.toList ++ ['.']) property.toList
  return (document e, (splitOn '.' path).map String.ofList)

/-- The value of a property of an entity. -/
def value (e : α) (property : String) : PropertyValue :=
  match path? e property with
  | some (j, keys) => .text ((j.along? keys).bind Json.scalarText?)
  | none => ((properties e).lookup property).getD (.text none)

end QueriedEntity

/-! ### Answers -/

/-- An order in some direction. -/
def SortOrder.directed : SortOrder → Ordering → Ordering
  | ascending, o => o
  | descending, o => o.swap

namespace QuerySpec

variable {α : Type} [Entity α] [QueriedEntity α]

/-- Does an entity satisfy all criteria of a specification? -/
def isMet (spec : QuerySpec) (e : α) : Bool :=
  spec.filter.all fun c => c.isMet (QueriedEntity.value e c.property)

/-- How a specification orders entities: by its sort property, if it has one, in its direction, and
by their ids where that leaves them level. -/
def order (spec : QuerySpec) (a b : α) : Ordering :=
  match spec.sortField with
  | none => Text.order (Entity.id a) (Entity.id b)
  | some p =>
    (spec.sortOrder.directed ((QueriedEntity.value a p).order (QueriedEntity.value b p))).then
      (Text.order (Entity.id a) (Entity.id b))

/-- The entities that satisfy all criteria of a specification, of those that there are, in its
order.
-/
def found (spec : QuerySpec) (es : List α) : List α :=
  (es.filter fun e => spec.isMet e).mergeSort fun a b => (spec.order a b).isLE

/-- The entities that a specification asks for, of those that there are. -/
def answer (spec : QuerySpec) (es : List α) : List α :=
  ((spec.found es).drop spec.offset.toNat).take spec.limit.toNat

end QuerySpec

end LeasedStore
