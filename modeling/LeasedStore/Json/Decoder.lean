/-
Reading documents as values of other types.

* `Source`: whether a document comes from a text or from a value, which shows in a few wordings;
* `Decoder`: from a document to a value of some type or to the first fault in the order of the
  document;
* `string`, `int64`, `uint32`, `listOf`, `optional`, `value`, `members`, `texts`, `choice`: the
  decoders of the simple types;
* `Record`: the fields of a record, in their order, each with its decoder;
* `Record.decoder`: a record from an object, whatever the order of its members, or from an array of
  its fields;
* `Decoder.ofText`, `Decoder.ofJson`: a whole text, a value.
-/
import LeasedStore.Json.Document

namespace LeasedStore.Json

/-- Where a document comes from. -/
inductive Source where
  | text | value
  deriving DecidableEq, Repr

/-- From a document to a value, or to the first fault of it. -/
abbrev Decoder (α : Type) := Source → Document → Except Fault α

namespace Decoder

/-- A text. -/
def string : Decoder String := fun _ d =>
  match d with
  | .string s => .ok s
  | d => .error (d.mismatch "a string")

/-- An integer within a range, from a number. -/
def integer {α : Type} (wanted : String) (fit? : Int → Option α) : Decoder α := fun _ d =>
  match d with
  | .number (.int n _) =>
    match fit? n with
    | some a => .ok a
    | none => .error (.wrongValue ("integer `" ++ Numeral.ofInt n ++ "`") wanted)
  | d => .error (d.mismatch wanted)

/-- A signed word of 64 bits. -/
def int64 : Decoder Int64 := integer "i64" Numeral.fitInt64?

/-- An unsigned word of 32 bits. -/
def uint32 : Decoder UInt32 :=
  integer "u32" fun n => if 0 ≤ n ∧ n < UInt32.size then some n.toNat.toUInt32 else none

/-- A value or, for null, its absence. -/
def optional {α : Type} (decode : Decoder α) : Decoder (Option α) := fun source d =>
  match d with
  | .null => .ok none
  | d => (decode source d).map some

/-- Nothing, written as null. -/
def unit : Decoder Unit := fun _ d =>
  match d with
  | .null => .ok ()
  | d => .error (d.mismatch "unit")

/-- All results, or the first fault. -/
def all {α β : Type} (f : α → Except Fault β) : List α → Except Fault (List β)
  | [] => .ok []
  | a :: rest => do
    let b ← f a
    return b :: (← all f rest)

/-- Raise the fault, if there is one. -/
def raise? : Option Fault → Except Fault Unit
  | some f => .error f
  | none => .ok ()

/-- A list, from an array. -/
def listOf {α : Type} (decode : Decoder α) : Decoder (List α) := fun source d =>
  match d with
  | .array items stop => do
    let as ← all (decode source) items
    raise? stop.fault?
    return as
  | d => .error (d.mismatch "a sequence")

mutual

/-- A document as it is, if it has no fault. -/
def asJson : Document → Except Fault Json
  | .null => .ok .null
  | .bool b => .ok (.bool b)
  | .number n => .ok (.number n)
  | .string s => .ok (.string s)
  | .array items stop => do
    let js ← asItems items
    raise? stop.fault?
    return .array js
  | .object members stop => do
    let ms ← asMembers members
    raise? stop.fault?
    return .object ms
  | .broken f => .error (.syntactic f)

/-- Items as they are. -/
def asItems : List Document → Except Fault (List Json)
  | [] => .ok []
  | d :: rest => do
    let j ← asJson d
    return j :: (← asItems rest)

/-- Members as they are. -/
def asMembers : List Document.Member → Except Fault (List (String × Json))
  | [] => .ok []
  | (key, d, _) :: rest => do
    let j ← asJson d
    return (key, j) :: (← asMembers rest)

end

/-- Any document. -/
def value : Decoder Value := fun _ d => (asJson d).map .ofJson

/-- Any object. -/
def members : Decoder Members := fun _ d =>
  match d with
  | .object ms stop => do
    let ms ← asMembers ms
    raise? stop.fault?
    return .ofList ms
  | d => .error (d.mismatch "a map")

/-- An object of texts. -/
def texts : Decoder Texts := fun source d =>
  match d with
  | .object ms stop => do
    let ms ← all (fun m => (string source m.2.1).map fun s => (m.1, s)) ms
    raise? stop.fault?
    return .ofList ms
  | d => .error (d.mismatch "a map")

/-! ### Choices between names -/

/-- The value that a name stands for, among some choices. -/
def named {α : Type} (table : List (String × α)) (choices : List String) (name : String) :
    Except Fault α :=
  match table.lookup name with
  | some a => .ok a
  | none => .error (.unknownVariant name choices)

/-- One of some values, written as its name, or as an object with the name for its only key. -/
def choice {α : Type} (table : List (String × α)) (choices : List String) : Decoder α :=
  fun source d =>
  match source, d with
  | _, .string s => named table choices s
  | .text, .object [] stop =>
    match stop with
    | .closed => .error (.syntactic .expectedValue)
    | .unclosed => .error (.syntactic .eofInValue)
    | stop => .error (stop.fault?.getD (.syntactic .expectedValue))
  | .text, .object ((name, v, _) :: more) stop => do
    let a ← named table choices name
    unit source v
    match more, stop with
    | [], .closed => return a
    | [], .unclosed => throw (.syntactic .eofInObject)
    | _, _ => throw (.syntactic .expectedValue)
  | .value, .object [(name, v, _)] _ => do
    let a ← named table choices name
    unit source v
    return a
  | .value, .object _ _ => .error (.wrongValue "map" "map with a single key")
  | _, .broken f => .error (.syntactic f)
  | .text, _ => .error (.syntactic .expectedValue)
  | .value, d => .error (d.mismatch "string or map")

end Decoder

/-! ### Records -/

/-- What reading a record from an array needs to know: its name and how many fields it has. -/
structure Record.Shape where
  name : String
  size : Nat
  deriving DecidableEq, Repr

/-- What a record of a shape is called. -/
def Record.Shape.wanted (s : Shape) : String := "struct " ++ s.name

/-- What a record of a shape is called where an array is too short for it. -/
def Record.Shape.wantedLength (s : Shape) : String :=
  s.wanted ++ " with " ++ Numeral.ofNat s.size ++ (if s.size = 1 then " element" else " elements")

/-- The fields of a record that make up a value, each with its decoder. -/
structure Record (α : Type) where
  /-- What is known of the fields while the members go by. -/
  State : Type
  /-- The state before the first member. -/
  start : State
  /-- The state after a member; none if its key is no field. -/
  accept : Source → String → Document → State → Option (Except Fault State)
  /-- The value of the fields, once all members went by. -/
  finish : State → Except Fault α
  /-- The value of the fields at the head of an array, with the number of items read and the items
  behind them. -/
  take : Source → Record.Shape → Option Fault → Nat → List Document →
    Except Fault (α × Nat × List Document)

namespace Record

/-- A field with a decoder; `absent` is its value where the record does not have it, and `short`
its value where an array ends before it. -/
def fieldWith {α : Type} (name : String) (decode : Decoder α) (absent short : Option α) :
    Record α where
  State := Option α
  start := none
  accept source key d state :=
    if key = name then
      some <| match state with
        | some _ => .error (.duplicateField name)
        | none => (decode source d).map some
    else none
  finish state :=
    match state.or absent with
    | some a => .ok a
    | none => .error (.missingField name)
  take source shape stop index items :=
    match items with
    | d :: rest => (decode source d).map fun a => (a, index + 1, rest)
    | [] => do
      Decoder.raise? stop
      match short with
      | some a => return (a, index, [])
      | none => throw (.wrongLength index shape.wantedLength)

/-- A field that must be there. -/
def field {α : Type} (name : String) (decode : Decoder α) : Record α :=
  fieldWith name decode none none

/-- A field that may be null or missing. -/
def optionalField {α : Type} (name : String) (decode : Decoder α) : Record (Option α) :=
  fieldWith name (Decoder.optional decode) (some none) none

/-- A field with a value for its absence. -/
def defaultField {α : Type} (name : String) (decode : Decoder α) (absent : α) : Record α :=
  fieldWith name decode (some absent) (some absent)

/-- The value of two records side by side. -/
def both {α β γ : Type} (f : α → β → γ) (x : Record α) (y : Record β) : Record γ where
  State := x.State × y.State
  start := (x.start, y.start)
  accept source key d state :=
    match x.accept source key d state.1 with
    | some r => some (r.map fun s => (s, state.2))
    | none => (y.accept source key d state.2).map fun r => r.map fun s => (state.1, s)
  finish state := do
    let a ← x.finish state.1
    let b ← y.finish state.2
    return f a b
  take source shape stop index items := do
    let (a, index, items) ← x.take source shape stop index items
    let (b, index, items) ← y.take source shape stop index items
    return (f a b, index, items)

/-- A function of the value of a record. -/
def map {α β : Type} (f : α → β) (x : Record α) : Record β where
  State := x.State
  start := x.start
  accept := x.accept
  finish state := (x.finish state).map f
  take source shape stop index items :=
    (x.take source shape stop index items).map fun r => (f r.1, r.2)

instance : Functor Record where
  map := map

instance : Seq Record where
  seq f x := both (fun g a => g a) f (x ())

/-- The state after all members, those that are no fields left aside. -/
def acceptAll {α : Type} (r : Record α) (source : Source) :
    List Document.Member → r.State → Except Fault r.State
  | [], state => .ok state
  | (key, d, gap) :: rest, state =>
    match r.accept source key d state with
    | some next => next.bind (acceptAll r source rest)
    | none => (Decoder.raise? gap).bind fun _ => acceptAll r source rest state

/-- A record from an object, whatever the order of its members, or from an array of its fields. -/
def decoder {α : Type} (r : Record α) (shape : Shape) : Decoder α := fun source d =>
  match d with
  | .object members stop => do
    let state ← acceptAll r source members r.start
    Decoder.raise? stop.fault?
    r.finish state
  | .array items stop => do
    let (a, _, surplus) ← r.take source shape stop.fault? 0 items
    match source, surplus with
    | .text, _ :: _ => throw (.syntactic .trailingCharacters)
    | .text, [] => Decoder.raise? stop.closingFault?
    | .value, _ :: _ => throw (.wrongLength items.length "fewer elements in array")
    | .value, [] => pure ()
    return a
  | d => .error (d.mismatch shape.wanted)

end Record

namespace Decoder

/-- A value of the type from a whole text. -/
def ofText {α : Type} (decode : Decoder α) (s : String) : Except Fault α := do
  let (d, surplus) := Document.read s
  let a ← decode .text d
  raise? surplus
  return a

/-- A value of the type from a JSON value. -/
def ofJson {α : Type} (decode : Decoder α) (j : Json) : Except Fault α :=
  decode .value (Document.ofJson j)

end Decoder

end LeasedStore.Json
