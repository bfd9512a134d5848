/-
Texts as lists of code points.

A text that is taken out of a document may hold halves of surrogate pairs, which are no characters.
As code points such texts can be compared and matched all the same.

* `Codes`: code points, halves of surrogate pairs included;
* `codes`, `bytes`: the code points of characters, and their bytes in UTF-8;
* `isHighSurrogate`, `isLowSurrogate`, `joinSurrogates`: the halves of a pair, and what they make.
-/
namespace LeasedStore.Text

/-- Code points, halves of surrogate pairs included. -/
abbrev Codes := List Nat

/-- The code points of some characters. -/
def codes (cs : List Char) : Codes := cs.map Char.toNat

/-- The bytes of some characters in UTF-8. -/
def bytes (cs : List Char) : List Nat :=
  cs.flatMap fun c => (String.utf8EncodeChar c).map UInt8.toNat

/-- Is the code point the first half of a surrogate pair? -/
def isHighSurrogate (n : Nat) : Bool := 0xD800 ≤ n && n ≤ 0xDBFF

/-- Is the code point the second half of a surrogate pair? -/
def isLowSurrogate (n : Nat) : Bool := 0xDC00 ≤ n && n ≤ 0xDFFF

/-- The code point of a surrogate pair. -/
def joinSurrogates (high low : Nat) : Nat := (high - 0xD800) * 0x400 + (low - 0xDC00) + 0x10000

end LeasedStore.Text
