/-
Blank text: the characters of the Unicode property White_Space, and of texts without others.

* `isBlankChar`: the property itself, as its ranges of code points;
* `trimBlanks`: a text without its leading and trailing blanks;
* `isBlank`: a text of blanks only, the empty one included;
* `lowerAscii`: small letters for the 26 capital ones, all else as it is.
-/
namespace LeasedStore.Text

/-- The code points of the property White_Space, as closed ranges in ascending order. -/
def blankRanges : List (Nat × Nat) :=
  [(0x9, 0xD), (0x20, 0x20), (0x85, 0x85), (0xA0, 0xA0), (0x1680, 0x1680), (0x2000, 0x200A),
    (0x2028, 0x2029), (0x202F, 0x202F), (0x205F, 0x205F), (0x3000, 0x3000)]

/-- Does the character have the property White_Space? -/
def isBlankChar (c : Char) : Bool :=
  blankRanges.any fun r => r.1 ≤ c.toNat && c.toNat ≤ r.2

/-- The characters of a text without its leading and trailing blanks. -/
def trimBlankChars (cs : List Char) : List Char :=
  ((cs.dropWhile isBlankChar).reverse.dropWhile isBlankChar).reverse

/-- A text without its leading and trailing blanks. -/
def trimBlanks (s : String) : String :=
  String.ofList (trimBlankChars s.toList)

/-- Does the text consist of blanks only? -/
def isBlank (s : String) : Bool :=
  s.toList.all isBlankChar

/-- The text with small letters for the capital ones of ASCII. -/
def lowerAscii (s : String) : String :=
  String.ofList (s.toList.map Char.toLower)

end LeasedStore.Text
