/-
Patterns: a text is like a pattern if the pattern's characters can be matched one after the other.

* `anyTail`: does some end of a text satisfy a test?
* `likeCodes`: a percent sign matches any run of characters, an underscore any single one, a letter
  of ASCII itself in either case, and all else only itself;
* `isLike`: the same for texts, each of which ends at its first NUL and in which halves of surrogate
  pairs and the two code points that are no characters count as the replacement character.
-/
import LeasedStore.Text.Codes

namespace LeasedStore

open Text (Codes)

/-- Does some end of a list satisfy a test? -/
def anyTail {α : Type} (p : List α → Bool) : List α → Bool
  | [] => p []
  | a :: rest => p (a :: rest) || anyTail p rest

/-- The small letter for a capital one of ASCII, all else as it is. -/
def foldCase (n : Nat) : Nat := if 'A'.toNat ≤ n ∧ n ≤ 'Z'.toNat then n + 32 else n

/-- Does a text match a pattern? -/
def likeCodes : (pattern text : Codes) → Bool
  | [], text => text.isEmpty
  | c :: pattern, text =>
    if c = '%'.toNat then anyTail (likeCodes pattern) text
    else
      match text with
      | [] => false
      | d :: rest => (c = '_'.toNat || foldCase c = foldCase d) && likeCodes pattern rest

/-- The code point of the replacement character for one that stands for no character. -/
def replaced (n : Nat) : Nat :=
  if (0xD800 ≤ n ∧ n ≤ 0xDFFF) ∨ n = 0xFFFE ∨ n = 0xFFFF then 0xFFFD else n

/-- The code points of a text up to its first NUL, as patterns see them. -/
def visibleCodes (s : Codes) : Codes := (s.takeWhile (· ≠ 0)).map replaced

/-- Is a text like a pattern? -/
def isLike (text pattern : Codes) : Bool := likeCodes (visibleCodes pattern) (visibleCodes text)

end LeasedStore
