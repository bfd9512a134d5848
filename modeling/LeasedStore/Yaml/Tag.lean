/-
Tags and directives of YAML.

A tag names the kind of a node.  It is written in full between angle brackets, or behind a handle,
which stands for the start of the tag; directives in front of a document say what handles stand for.

* `uri?`: the address at the head of a text, some of whose bytes stand behind percent signs;
* `Tag`, `Tag.read?`: a tag as it is written;
* `Handles`, `Tag.resolve?`: what handles stand for, and the tag that is meant;
* `Directive`, `Directive.read?`: a directive.
-/
import LeasedStore.Text.Percent
import LeasedStore.Text.Utf8
import LeasedStore.Yaml.Character

namespace LeasedStore.Yaml

/-! ### Addresses -/

/-- May the character stand in an address?  Commas and brackets may if it is `wide`. -/
def isUriChar (isWide : Bool) (c : Char) : Bool :=
  isWordChar c || ";/?:@&=+$.!~*'()".toList.contains c || (isWide && [',', '[', ']'].contains c)

/-- How many bytes follow the first one of a character. -/
def trailing? (b : Nat) : Option Nat :=
  if b < 0x80 then some 0
  else if 0xC0 ≤ b ∧ b < 0xE0 then some 1
  else if 0xE0 ≤ b ∧ b < 0xF0 then some 2
  else if 0xF0 ≤ b ∧ b < 0xF8 then some 3
  else none

/-- The bytes of the address at the head of a text, and the text behind it; so many bytes of a
character have to come first, each behind a percent sign. -/
def uriBytes? (isWide : Bool) : (due : Nat) → List Char → Option (List Nat × List Char)
  | due, '%' :: high :: low :: rest => do
    let b ← Text.Percent.hexPair? high.toNat low.toNat
    let due ← if due = 0 then trailing? b
      else if 0x80 ≤ b ∧ b < 0xC0 then some (due - 1) else none
    (uriBytes? isWide due rest).map fun r => (b :: r.1, r.2)
  | due, c :: rest =>
    if due ≠ 0 || c = '%' then none
    else if isUriChar isWide c then (uriBytes? isWide 0 rest).map fun r => (c.toNat :: r.1, r.2)
    else some ([], c :: rest)
  | due, [] => if due = 0 then some ([], []) else none

/-- The text of some bytes up to the first that is zero. -/
def textOf (bytes : List Nat) : String :=
  String.ofList ((Text.Utf8.decodeLossy bytes).takeWhile (· ≠ '\x00'))

/-- The address at the head of a text, which is not empty, and the text behind it. -/
def uri? (isWide : Bool) (s : List Char) : Option (String × List Char) := do
  let (bytes, rest) ← uriBytes? isWide 0 s
  if bytes.isEmpty then none else return (textOf bytes, rest)

/-! ### Tags -/

/-- A tag as it is written; without a handle, it is written in full. -/
structure Tag where
  handle : Option String
  suffix : String
  deriving DecidableEq, Repr

namespace Tag

/-- The tag behind an exclamation mark, and the text behind it. -/
def head? : List Char → Option (Tag × List Char)
  | '<' :: rest => do
    let (uri, rest) ← uri? true rest
    match rest with
    | '>' :: rest => return (⟨none, uri⟩, rest)
    | _ => none
  | s => do
    let name := s.takeWhile isWordChar
    match s.drop name.length with
    | '!' :: rest => do
      let (uri, rest) ← uri? false rest
      return (⟨some ("!" ++ String.ofList name ++ "!"), uri⟩, rest)
    | _ => do
      let (bytes, rest) ← uriBytes? false 0 s
      let suffix := textOf bytes
      return (if suffix.isEmpty then ⟨none, "!"⟩ else ⟨some "!", suffix⟩, rest)

/-- The tag behind an exclamation mark, if it ends with a word, and the text behind it; inside
brackets it may end with a comma. -/
def read? (inFlow : Bool) (s : List Char) : Option (Tag × List Char) := do
  let (tag, rest) ← head? s
  if endsWord rest || (inFlow && rest.head? = some ',') then return (tag, rest) else none

end Tag

/-- What handles stand for. -/
abbrev Handles := List (String × String)

/-- What the handles stand for that need no directive. -/
def Handles.default : Handles := [("!", "!"), ("!!", "tag:yaml.org,2002:")]

/-- The tag that is meant; none if nothing says what its handle stands for. -/
def Tag.resolve? (handles : Handles) (t : Tag) : Option String :=
  match t.handle with
  | none => some t.suffix
  | some handle => ((handles ++ Handles.default).lookup handle).map (· ++ t.suffix)

/-! ### Directives -/

/-- A directive. -/
inductive Directive where
  /-- The version of the language. -/
  | version (major minor : Nat)
  /-- What a handle stands for. -/
  | handle (name meaning : String)
  deriving DecidableEq, Repr

namespace Directive

/-- The number of at most nine digits at the head of a text, and the text behind it. -/
def number? (s : List Char) : Option (Nat × List Char) :=
  let digits := s.takeWhile Char.isDigit
  if digits.isEmpty || 9 < digits.length then none
  else some (Nat.ofDigitChars 10 digits 0, s.drop digits.length)

/-- The version at the head of a text, and the text behind it. -/
def version? (s : List Char) : Option (Directive × List Char) := do
  let (major, rest) ← number? s
  match rest with
  | '.' :: rest => do
    let (minor, rest) ← number? rest
    return (version major minor, rest)
  | _ => none

/-- The handle at the head of a text, and the text behind it: a word between exclamation marks, or
one or two of them. -/
def handleName? : List Char → Option (String × List Char)
  | '!' :: s =>
    let name := s.takeWhile isWordChar
    match s.drop name.length with
    | '!' :: rest => some ("!" ++ String.ofList name ++ "!", rest)
    | rest => if name.isEmpty then some ("!", rest) else none
  | _ => none

/-- What is said of the handle at the head of a text, and the text behind it. -/
def handle? (s : List Char) : Option (Directive × List Char) := do
  let (name, rest) ← handleName? s
  if rest.head?.any isBlank then do
    let (meaning, rest) ← uri? true (rest.dropWhile isBlank)
    if endsWord rest then return (handle name meaning, rest) else none
  else none

/-- The directive behind a percent sign, and the text behind its line. -/
def read? (s : List Char) : Option (Directive × List Char) := do
  let name := s.takeWhile isWordChar
  let behind := s.drop name.length
  if !endsWord behind then none
  let words := behind.dropWhile isBlank
  let (directive, rest) ←
    if name = "YAML".toList then version? words
    else if name = "TAG".toList then handle? words
    else none
  return (directive, ← behindLine? rest)

end Directive

end LeasedStore.Yaml
