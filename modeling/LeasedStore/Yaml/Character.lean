/-
The characters of YAML texts.

* `isBlank`, `isBreak`, `isGap`: blanks, ends of lines, and both;
* `isWordChar`, `isFlowIndicator`: characters of names, and those that structure collections in
  brackets;
* `endsWord`: does a word end here?
* `isMark`: does a line between documents start here?
* `behindLine?`: the text behind a line that holds nothing more;
* `uniform?`: a text in which every line ends in the same way, if all its characters are allowed.
-/
namespace LeasedStore.Yaml

/-- Is the character a space or a tab? -/
def isBlank (c : Char) : Bool := c = ' ' || c = '\t'

/-- Does the character end a line? -/
def isBreak (c : Char) : Bool := c = '\n' || c = '\u2028' || c = '\u2029'

/-- Is the character a blank or the end of a line? -/
def isGap (c : Char) : Bool := isBlank c || isBreak c

/-- May the character stand in a name? -/
def isWordChar (c : Char) : Bool := c.isAlphanum || c = '_' || c = '-'

/-- Is the character one of those that structure collections in brackets? -/
def isFlowIndicator (c : Char) : Bool := [',', '[', ']', '{', '}'].contains c

/-- Does the text end, or go on with a blank or the end of a line? -/
def endsWord : List Char → Bool
  | [] => true
  | c :: _ => isGap c

/-- Does the text start with three characters of a kind that form a word? -/
def isMarkOf (m : Char) : List Char → Bool
  | a :: b :: c :: rest => a = m && b = m && c = m && endsWord rest
  | _ => false

/-- Does the text start with the mark in front of a document, or with that behind one? -/
def isMark (s : List Char) : Bool := isMarkOf '-' s || isMarkOf '.' s

/-- The text behind blanks, a comment, and the end of the line, if there is nothing else. -/
def behindLine? (s : List Char) : Option (List Char) :=
  let s := s.dropWhile isBlank
  let s := if s.head? = some '#' then s.dropWhile fun c => !isBreak c else s
  match s with
  | [] => some []
  | c :: rest => if isBreak c then some rest else none

/-- Is the character allowed? -/
def isAllowed (c : Char) : Bool :=
  let n := c.toNat
  n = 0x9 || n = 0xA || n = 0xD || (0x20 ≤ n && n ≤ 0x7E) || n = 0x85 ||
    (0xA0 ≤ n && n ≤ 0xFFFD) || 0x10000 ≤ n

/-- Carriage returns and next-line characters as line feeds, a carriage return in front of a line
feed being dropped. -/
def unifyBreaks : List Char → List Char
  | '\r' :: '\n' :: rest => '\n' :: unifyBreaks rest
  | c :: rest => (if c = '\r' || c = '\x85' then '\n' else c) :: unifyBreaks rest
  | [] => []

/-- The characters of a text, if all of them are allowed; its lines end in line feeds, or in the
separators of lines and paragraphs. -/
def uniform? (s : String) : Option (List Char) :=
  if s.toList.all isAllowed then some (unifyBreaks s.toList) else none

end LeasedStore.Yaml
