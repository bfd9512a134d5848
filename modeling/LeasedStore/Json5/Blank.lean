/-
What may stand between the parts of a JSON5 document: blanks and comments.

* `isBlank`: the blanks;
* `behindBlock?`, `behindLine`: the text behind a comment;
* `skipBlanks`: the text behind blanks and comments.
-/
namespace LeasedStore.Json5

/-- The code points of the blanks, as closed ranges. -/
def blankRanges : List (Nat × Nat) :=
  [(0x9, 0xD), (0x20, 0x20), (0xA0, 0xA0), (0x1680, 0x1680), (0x2000, 0x200A), (0x2028, 0x2029),
    (0x202F, 0x202F), (0x205F, 0x205F), (0x3000, 0x3000), (0xFEFF, 0xFEFF)]

/-- Is the character a blank? -/
def isBlank (c : Char) : Bool := blankRanges.any fun r => r.1 ≤ c.toNat && c.toNat ≤ r.2

/-- Does the character end a comment that runs to the end of its line? -/
def isLineEnd (c : Char) : Bool := c = '\n' || c = '\r' || c = '\u2028' || c = '\u2029'

/-- The text behind the end of a block comment, if it ends. -/
def behindBlock? : List Char → Option (List Char)
  | '*' :: '/' :: rest => some rest
  | _ :: rest => behindBlock? rest
  | [] => none

/-- The text behind the end of the line. -/
def behindLine (s : List Char) : List Char := (s.dropWhile fun c => !isLineEnd c).drop 1

/-- The text behind one blank or comment at its head, if one is there. -/
def behindBlank? : List Char → Option (List Char)
  | '/' :: '*' :: rest => behindBlock? rest
  | '/' :: '/' :: rest => some (behindLine rest)
  | c :: rest => if isBlank c then some rest else none
  | [] => none

/-- The text behind so many blanks and comments at most. -/
def skipUpTo : Nat → List Char → List Char
  | 0, s => s
  | n + 1, s =>
    match behindBlank? s with
    | some rest => skipUpTo n rest
    | none => s

/-- The text behind blanks and comments. -/
def skipBlanks (s : List Char) : List Char := skipUpTo s.length s

end LeasedStore.Json5
