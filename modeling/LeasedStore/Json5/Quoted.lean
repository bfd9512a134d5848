/-
Strings of JSON5 documents, as they are written.

* `Quoted`: the characters between the quotes, and the liberties that they take;
* `Quoted.read?`: a string up to its closing quote;
* `Quoted.chars`: the string in JSON: what is written in JSON already stays as it is;
* `Quoted.codes`: the code points that the string stands for.
-/
import LeasedStore.Json.Printer
import LeasedStore.Json.StringText
import LeasedStore.Text.Codes

namespace LeasedStore.Json5

open Text (Codes isHighSurrogate isLowSurrogate joinSurrogates)

/-- How a string is written. -/
inductive Style where
  /-- Every character stands for itself. -/
  | plain
  /-- Some characters stand behind a backslash, as in JSON. -/
  | escaped
  /-- Some characters are written as JSON does not allow. -/
  | liberal
  deriving DecidableEq, Repr

/-- The style of a string some of whose parts are of one style and some of another one. -/
def Style.join : Style → Style → Style
  | liberal, _ => liberal
  | _, liberal => liberal
  | escaped, _ => escaped
  | plain, s => s

/-- A string: its style, and the characters between its quotes. -/
structure Quoted where
  style : Style
  raw : List Char
  deriving DecidableEq, Repr

/-- Is the character a hexadecimal digit? -/
def isHexDigit (c : Char) : Bool := (Json.hexValue? c).isSome

namespace Quoted

/-! ### Reading -/

/-- A string with some more characters of a style in front. -/
def prepend (style : Style) (raw : List Char) (r : Option (Quoted × List Char)) :
    Option (Quoted × List Char) :=
  r.map fun q => (⟨style.join q.1.style, raw ++ q.1.raw⟩, q.2)

/-- The style of an escape by one letter. -/
def letterStyle? (c : Char) : Option Style :=
  if (Json.escapedChar? c).isSome then some .escaped
  else if ['\'', 'v', '0', '\n', '\r', '\u2028', '\u2029'].contains c then some .liberal
  else none

/-- The characters up to a closing quote, and the text behind it. -/
def read? (quote : Char) : List Char → Option (Quoted × List Char)
  | [] => none
  | '\\' :: rest =>
    match rest with
    | 'u' :: a :: b :: c :: d :: rest =>
      if [a, b, c, d].all isHexDigit then
        prepend .escaped ['\\', 'u', a, b, c, d] (read? quote rest)
      else none
    | 'x' :: a :: b :: rest =>
      if [a, b].all isHexDigit then prepend .liberal ['\\', 'x', a, b] (read? quote rest)
      else none
    | '\r' :: '\n' :: rest => prepend .liberal ['\\', '\r', '\n'] (read? quote rest)
    | c :: rest =>
      match letterStyle? c with
      | some style => prepend style ['\\', c] (read? quote rest)
      | none => none
    | [] => none
  | c :: rest =>
    if c = quote then some (⟨.plain, []⟩, rest)
    else if c = '\x00' then none
    else prepend (if c.toNat < 0x20 ∨ c = '"' then .liberal else .plain) [c] (read? quote rest)

/-! ### The string in JSON -/

/-- Written characters as JSON writes them; a line that goes on in the next one is joined with it,
and a vertical tab becomes a horizontal one. -/
def strict : List Char → List Char
  | [] => []
  | '\\' :: rest =>
    match rest with
    | '\'' :: rest => '\'' :: strict rest
    | 'v' :: rest => "\\u0009".toList ++ strict rest
    | '0' :: rest => "\\u0000".toList ++ strict rest
    | 'x' :: a :: b :: rest => ['\\', 'u', '0', '0', a, b] ++ strict rest
    | '\r' :: '\n' :: rest => strict rest
    | '\r' :: rest => strict rest
    | '\n' :: rest => strict rest
    | '\u2028' :: rest => strict rest
    | '\u2029' :: rest => strict rest
    | c :: rest => '\\' :: c :: strict rest
    | [] => []
  | c :: rest => Json.escapeChar c ++ strict rest

/-- The string between quotes, in JSON. -/
def chars (q : Quoted) : List Char :=
  '"' :: ((if q.style = .liberal then strict q.raw else q.raw) ++ ['"'])

/-! ### What the string stands for -/

/-- The code point that stands for what is no character; it is left out where an escape gives it. -/
def noCharacter : Nat := 0x99999

/-- The code point of an escape in front of others. -/
def consEscaped (n : Nat) (rest : Codes) : Codes := if n = noCharacter then rest else n :: rest

/-- The value of some hexadecimal digits. -/
def hexNumber (digits : List Char) : Nat :=
  digits.foldl (fun n c => n * 16 + (Json.hexValue? c).getD 0) 0

/-- The code points of what stands behind the end of a line that goes on; behind the last one
stands a NUL. -/
def behindJoint : List Char → Codes → Codes
  | [], _ => [0]
  | '\\' :: _, codes => codes
  | _, [] => []
  | _, n :: codes => consEscaped n codes

/-- The code points of written characters. -/
def unescape : List Char → Codes
  | [] => []
  | '\\' :: rest =>
    match rest with
    | 'u' :: a :: b :: c :: d :: '\\' :: 'u' :: e :: f :: g :: h :: rest =>
      let high := hexNumber [a, b, c, d]
      let low := hexNumber [e, f, g, h]
      if isHighSurrogate high && isLowSurrogate low then
        consEscaped (joinSurrogates high low) (unescape rest)
      else high :: unescape ('\\' :: 'u' :: e :: f :: g :: h :: rest)
    | 'u' :: a :: b :: c :: d :: rest => hexNumber [a, b, c, d] :: unescape rest
    | 'x' :: a :: b :: rest => hexNumber [a, b] :: unescape rest
    | 'v' :: rest => 0xB :: unescape rest
    | '0' :: rest => 0 :: unescape rest
    | '\'' :: rest => '\''.toNat :: unescape rest
    | '\r' :: '\n' :: rest => behindJoint rest (unescape rest)
    | '\r' :: rest => behindJoint rest (unescape rest)
    | '\n' :: rest => behindJoint rest (unescape rest)
    | '\u2028' :: rest => behindJoint rest (unescape rest)
    | '\u2029' :: rest => behindJoint rest (unescape rest)
    | c :: rest =>
      match Json.escapedChar? c with
      | some e => e.toNat :: unescape rest
      | none => unescape rest
    | [] => []
  | c :: rest => c.toNat :: unescape rest

/-- The code points that the string stands for. -/
def codes (q : Quoted) : Codes :=
  if q.style = .plain then Text.codes q.raw else unescape q.raw

end Quoted

end LeasedStore.Json5
