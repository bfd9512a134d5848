/-
Scalars of YAML as values of other types.

* `Node.given?`: a node, absent if it is nothing or a word for it;
* `Node.text?`: a text, however it is written;
* `Node.bool?`: a truth value;
* `Node.unsigned?`, `Node.signed?`: a number in base ten without leading zeros, or in base sixteen,
  eight or two behind its mark.

Numbers and truth values are written without quotes, or below a bar if a tag says what they are.
-/
import LeasedStore.Json.StringText
import LeasedStore.Text.Numeral
import LeasedStore.Yaml.Node.Basic

namespace LeasedStore.Yaml

/-! ### Numbers -/

/-- The number that some digits of a base stand for. -/
def digitsOf? (base : Nat) (cs : List Char) : Option Nat :=
  if cs.isEmpty then none
  else cs.foldlM (fun n c => (Json.hexValue? c).bind fun d =>
    if d < base then some (n * base + d) else none) 0

/-- The number behind the mark of a base. -/
def marked? : List Char → Option Nat
  | '0' :: 'x' :: rest => digitsOf? 16 rest
  | '0' :: 'o' :: rest => digitsOf? 8 rest
  | '0' :: 'b' :: rest => digitsOf? 2 rest
  | _ => none

/-- The number that a text without a sign stands for; leading zeros make it no number. -/
def magnitude? (cs : List Char) : Option Nat :=
  match marked? cs with
  | some n => some n
  | none => if 1 < cs.length && cs.head? = some '0' then none else Numeral.digits? cs

/-- The number that a text with an optional plus sign stands for. -/
def unsigned? : List Char → Option Nat
  | '+' :: rest => magnitude? rest
  | cs => magnitude? cs

/-- The number that a text with an optional sign stands for. -/
def signed? : List Char → Option Int
  | '+' :: rest => (magnitude? rest).map Int.ofNat
  | '-' :: rest => (magnitude? rest).map fun n => -Int.ofNat n
  | cs => (magnitude? cs).map Int.ofNat

/-! ### Nothing -/

/-- The words for nothing. -/
def nullWords : List String := ["null", "Null", "NULL", "~"]

/-- A tag of those that need no directive, in full. -/
def standardTag (name : String) : String := "tag:yaml.org,2002:" ++ name

namespace Scalar

/-- Is the scalar nothing?  One that its tag says to be nothing has to be a word for it. -/
def isNull? (s : Scalar) : Option Bool :=
  if s.style ≠ .plain then some false
  else
    match s.tag with
    | none => some (s.text.isEmpty || nullWords.contains s.text)
    | some tag =>
      if tag ≠ standardTag "null" then some false
      else if nullWords.contains s.text then some true
      else none

/-- The text of a scalar that may be a value of a kind. -/
def textOf? (kind : String) (s : Scalar) : Option String :=
  if s.style = .plain ∨ (s.style = .literal ∧ s.tag = some (standardTag kind)) then some s.text
  else none

end Scalar

/-! ### Nodes -/

namespace Node

/-- A node, absent if it is nothing; the outer absence is that of a node that should be nothing and
is something. -/
def given? : Node → Option (Option Node)
  | scalar label s => s.isNull?.map fun isNull => if isNull then none else some (scalar label s)
  | n => some (some n)

/-- The text of a scalar. -/
def text? : Node → Option String
  | scalar _ s => some s.text
  | _ => none

/-- The text of a scalar that may be a value of a kind. -/
def textOf? (kind : String) : Node → Option String
  | scalar _ s => s.textOf? kind
  | _ => none

/-- A number without sign. -/
def unsigned? (n : Node) : Option Nat := (n.textOf? "int").bind fun s => Yaml.unsigned? s.toList

/-- A number. -/
def signed? (n : Node) : Option Int := (n.textOf? "int").bind fun s => Yaml.signed? s.toList

/-- A truth value. -/
def bool? (n : Node) : Option Bool :=
  match n.textOf? "bool" with
  | some "true" | some "True" | some "TRUE" => some true
  | some "false" | some "False" | some "FALSE" => some false
  | _ => none

end Node

end LeasedStore.Yaml
