/-
Scalars between quotes.

* `singleQuoted?`: the scalar up to its closing quote; a quote inside it is written twice;
* `doubleQuoted?`: the scalar up to its closing quote, with escapes; the end of a line behind a
  backslash stands for nothing.
-/
import LeasedStore.Json.StringText
import LeasedStore.Yaml.Scalar.Basic

namespace LeasedStore.Yaml

/-- What was read of a text, and the rest. -/
abbrev Split := List Char × List Char

/-- More text in front of what was read. -/
def Split.prepend (cs : List Char) (s : Split) : Split := (cs ++ s.1, s.2)

/-- The text behind a gap, up to a closing single quote. -/
def singleQuoted? : Gap → List Char → Option Split
  | _, [] => none
  | gap, '\'' :: '\'' :: rest => (singleQuoted? [] rest).map (Split.prepend (gap.text ++ ['\'']))
  | gap, c :: rest =>
    if isGap c then singleQuoted? (c :: gap) rest
    else if gap.endsLine && isMark (c :: rest) then none
    else if c = '\'' then some (gap.text, rest)
    else (singleQuoted? [] rest).map (Split.prepend (gap.text ++ [c]))

/-! ### Escapes -/

/-- The character of an escape by one letter. -/
def escapedChar? (c : Char) : Option Char :=
  match c with
  | '0' => some '\x00'
  | 'a' => some '\x07'
  | 'b' => some '\x08'
  | 't' => some '\t'
  | '\t' => some '\t'
  | 'n' => some '\n'
  | 'v' => some '\x0b'
  | 'f' => some '\x0c'
  | 'r' => some '\r'
  | 'e' => some '\x1b'
  | ' ' => some ' '
  | '"' => some '"'
  | '/' => some '/'
  | '\\' => some '\\'
  | 'N' => some '\u0085'
  | '_' => some '\u00a0'
  | 'L' => some '\u2028'
  | 'P' => some '\u2029'
  | _ => none

/-- The character of a hexadecimal number. -/
def hexChar? (digits : List Char) : Option Char := do
  let n ← digits.foldlM (fun n d => (Json.hexValue? d).map fun v => n * 16 + v) 0
  if n.isValidChar then some (Char.ofNat n) else none

/-- A gap behind the start of a text between double quotes. -/
structure OpenGap where
  /-- Does it start with the end of a line behind a backslash? -/
  isEscaped : Bool
  gap : Gap
  deriving DecidableEq, Repr

namespace OpenGap

/-- No gap. -/
def none : OpenGap := ⟨false, []⟩

/-- What the gap stands for; behind a backslash all but the first end of a line count. -/
def text (g : OpenGap) : List Char :=
  if g.isEscaped then g.gap.reverse.filter isBreak else g.gap.text

/-- Does a line start behind the gap? -/
def endsLine (g : OpenGap) : Bool := if g.gap.isEmpty then g.isEscaped else g.gap.endsLine

end OpenGap

/-- The text behind a gap, up to a closing double quote. -/
def doubleQuoted? : OpenGap → List Char → Option Split
  | _, [] => none
  | g, '\\' :: rest =>
    match rest with
    | 'x' :: a :: b :: rest => do
      let c ← hexChar? [a, b]
      (doubleQuoted? .none rest).map (Split.prepend (g.text ++ [c]))
    | 'u' :: a :: b :: c :: d :: rest => do
      let c ← hexChar? [a, b, c, d]
      (doubleQuoted? .none rest).map (Split.prepend (g.text ++ [c]))
    | 'U' :: a :: b :: c :: d :: e :: f :: h :: i :: rest => do
      let c ← hexChar? [a, b, c, d, e, f, h, i]
      (doubleQuoted? .none rest).map (Split.prepend (g.text ++ [c]))
    | c :: rest =>
      if isBreak c then (doubleQuoted? ⟨true, []⟩ rest).map (Split.prepend g.text)
      else do
        let c ← escapedChar? c
        (doubleQuoted? .none rest).map (Split.prepend (g.text ++ [c]))
    | [] => none
  | g, c :: rest =>
    if isGap c then doubleQuoted? { g with gap := c :: g.gap } rest
    else if g.endsLine && isMark (c :: rest) then none
    else if c = '"' then some (g.text, rest)
    else (doubleQuoted? .none rest).map (Split.prepend (g.text ++ [c]))

end LeasedStore.Yaml
