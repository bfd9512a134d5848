/-
The tokens of a YAML text.

Outside brackets, columns say where collections start and end.  That something is a key shows only
at the colon behind it, so the place of what may be a key is kept until then; a key ends on its line
and has at most so many characters.

* `Lexer`: what is known at some place of a text;
* `Lexer.next?`: one more token, and those for collections that start and end with it;
* `Token.ofText?`: the tokens of a text, if it has any.
-/
import LeasedStore.Yaml.Place
import LeasedStore.Yaml.Scalar.Block
import LeasedStore.Yaml.Scalar.Plain
import LeasedStore.Yaml.Scalar.Quoted
import LeasedStore.Yaml.Token.Basic

namespace LeasedStore.Yaml

/-- The name of a node at the head of a text, and the text behind it. -/
def name? (s : List Char) : Option (String × List Char) :=
  let name := s.takeWhile isWordChar
  let rest := s.drop name.length
  let mayEnd := endsWord rest ||
    rest.head?.any fun c => ['?', ':', ',', ']', '}', '%', '@', '\x60'].contains c
  if !name.isEmpty && mayEnd then some (String.ofList name, rest) else none

/-- Something that is a key if a colon follows. -/
structure PossibleKey where
  place : Place
  /-- The number of tokens in front of it. -/
  index : Nat
  /-- Can it be nothing but a key? -/
  isDue : Bool
  deriving DecidableEq, Repr

/-- The greatest number of characters in front of the colon behind a key. -/
def PossibleKey.maxLength : Nat := 1024

/-- Can a colon at this place belong to the key? -/
def PossibleKey.reaches (k : PossibleKey) (p : Place) : Bool :=
  k.place.line = p.line && p.index ≤ k.place.index + maxLength

/-- What is known at a place of a text. -/
structure Lexer where
  place : Place
  tokens : Array Token
  /-- The columns of the collections without brackets around the place, the innermost first. -/
  columns : List Nat
  /-- What may be a key inside the innermost brackets. -/
  key : Option PossibleKey
  /-- What may be a key around them, an item for each pair of brackets around the place. -/
  outerKeys : List (Option PossibleKey)
  /-- May a key or an item start here? -/
  mayStartKey : Bool

namespace Lexer

/-- What is known at the start of a text. -/
def start (s : List Char) : Lexer := ⟨Place.start s, #[], [], none, [], true⟩

/-- Are there brackets around the place? -/
def inFlow (l : Lexer) : Bool := !l.outerKeys.isEmpty

/-- The least column of a line that continues a scalar. -/
def leastColumn (l : Lexer) : Nat := l.columns.head?.elim 0 (· + 1)

/-- One more token, of so many characters. -/
def push (l : Lexer) (t : Token) (length : Nat) : Lexer :=
  { l with tokens := l.tokens.push t, place := l.place.advance length }

/-- One more token, behind which some text is left. -/
def pushUpTo (l : Lexer) (t : Token) (rest : List Char) : Lexer :=
  l.push t (l.place.before rest)

/-! ### Keys -/

/-- Nothing is a key any more. -/
def dropKey? (l : Lexer) : Option Lexer :=
  if l.key.any (·.isDue) then none else some { l with key := none }

/-- What comes next may be a key if one may start here. -/
def saveKey? (l : Lexer) : Option Lexer :=
  if l.mayStartKey then do
    let l ← l.dropKey?
    let isDue := !l.inFlow && l.columns.head? = some l.place.column
    return { l with key := some ⟨l.place, l.tokens.size, isDue⟩ }
  else some l

/-! ### Collections without brackets -/

/-- The collections end that are to the right of a column. -/
def closeBeyond (l : Lexer) (column : Nat) : Lexer :=
  if l.inFlow then l
  else
    let ends := l.columns.takeWhile (column < ·)
    { l with
      tokens := l.tokens ++ Array.replicate ends.length Token.collectionEnd
      columns := l.columns.drop ends.length }

/-- All collections end. -/
def closeAll (l : Lexer) : Lexer :=
  if l.inFlow then l
  else
    { l with
      tokens := l.tokens ++ Array.replicate l.columns.length Token.collectionEnd
      columns := [] }

/-- A collection starts in a column, in front of the token of some index, if none has started there
before. -/
def openAt (l : Lexer) (column index : Nat) (t : Token) : Lexer :=
  if !l.inFlow && l.columns.head?.all (· < column) then
    { l with tokens := l.tokens.insertIdxIfInBounds index t, columns := column :: l.columns }
  else l

/-- A collection starts here, where a key or an item has to be able to start. -/
def openHere? (l : Lexer) (t : Token) : Option Lexer :=
  if l.inFlow then some l
  else if l.mayStartKey then some (l.openAt l.place.column l.tokens.size t)
  else none

/-! ### Kinds of tokens -/

/-- A mark in front of a document or behind one, or a directive. -/
def mark? (l : Lexer) (t : Token) (length : Nat) : Option Lexer := do
  let l ← l.closeAll.dropKey?
  return { l with mayStartKey := false }.push t length

/-- A directive behind a percent sign. -/
def directive? (l : Lexer) (behind : List Char) : Option Lexer := do
  let (d, rest) ← Directive.read? behind
  l.mark? (.directive d) (l.place.before rest)

/-- An opening bracket. -/
def open? (l : Lexer) (t : Token) : Option Lexer := do
  let l ← l.saveKey?
  return { l with key := none, outerKeys := l.key :: l.outerKeys, mayStartKey := true }.push t 1

/-- A closing bracket; one that closes nothing is a token as well. -/
def close? (l : Lexer) (t : Token) : Option Lexer := do
  let l ← l.dropKey?
  return { l with
    key := l.outerKeys.head?.join
    outerKeys := l.outerKeys.drop 1
    mayStartKey := false }.push t 1

/-- A comma. -/
def comma? (l : Lexer) : Option Lexer := do
  let l ← l.dropKey?
  return { l with mayStartKey := true }.push .comma 1

/-- A dash in front of an item. -/
def entry? (l : Lexer) : Option Lexer := do
  let l ← (← l.openHere? .sequenceStart).dropKey?
  return { l with mayStartKey := true }.push .entry 1

/-- A question mark in front of a key. -/
def key? (l : Lexer) : Option Lexer := do
  let l ← (← l.openHere? .mappingStart).dropKey?
  return { l with mayStartKey := !l.inFlow }.push .key 1

/-- A colon in front of a value; what may be a key is one if the colon is near enough. -/
def value? (l : Lexer) : Option Lexer :=
  match l.key.filter (·.reaches l.place) with
  | some key =>
    let l := { l with tokens := l.tokens.insertIdxIfInBounds key.index .key, key := none }
    let l := l.openAt key.place.column key.index .mappingStart
    some ({ l with mayStartKey := false }.push .value 1)
  | none => do
    let l ← (← l.openHere? .mappingStart).dropKey?
    return { l with mayStartKey := !l.inFlow }.push .value 1

/-- A token that belongs to a node, behind which no key may start on the same line. -/
def part? (l : Lexer) (t : Token) (rest : List Char) : Option Lexer := do
  let l ← l.saveKey?
  return { l with mayStartKey := false }.pushUpTo t rest

/-- A scalar below a bar or an angle bracket. -/
def blockScalar? (l : Lexer) (style : Style) (behind : List Char) : Option Lexer := do
  let l ← l.dropKey?
  let (text, rest) ← block? (style = .folded) l.columns.head? behind
  return { l with mayStartKey := true }.pushUpTo (.scalar style (String.ofList text)) rest

/-- A scalar behind a quote. -/
def quoted? (l : Lexer) (found : Option Split) : Option Lexer := do
  let (text, rest) ← found
  l.part? (.scalar .quoted (String.ofList text)) rest

/-- A scalar without quotes; behind the end of its last line a key may start. -/
def plain? (l : Lexer) : Option Lexer := do
  let p ← Plain.read? l.inFlow l.leastColumn l.place.rest
  let l ← l.part? (.scalar .plain (String.ofList p.text)) p.rest
  return { l with mayStartKey := p.endsLine }

/-! ### The tokens of a text -/

/-- One more token, which starts here. -/
def token? (l : Lexer) : Option Lexer :=
  let s := l.place.rest
  let rest := s.drop 1
  let isFirst := l.place.column = 0
  let isSign := endsWord rest
  match s with
  | [] => some l
  | c :: _ =>
    if isFirst && c = '%' then l.directive? rest
    else if isFirst && isMarkOf '-' s then l.mark? .documentStart 3
    else if isFirst && isMarkOf '.' s then l.mark? .documentEnd 3
    else if c = '[' then l.open? .openBracket
    else if c = '{' then l.open? .openBrace
    else if c = ']' then l.close? .closeBracket
    else if c = '}' then l.close? .closeBrace
    else if c = ',' then l.comma?
    else if c = '-' && isSign then l.entry?
    else if c = '?' && (l.inFlow || isSign) then l.key?
    else if c = ':' && (l.inFlow || isSign) then l.value?
    else if c = '*' then (name? rest).bind fun n => l.part? (.reference n.1) n.2
    else if c = '&' then (name? rest).bind fun n => l.part? (.anchor n.1) n.2
    else if c = '!' then (Tag.read? l.inFlow rest).bind fun t => l.part? (.tag t.1) t.2
    else if c = '|' && !l.inFlow then l.blockScalar? .literal rest
    else if c = '>' && !l.inFlow then l.blockScalar? .folded rest
    else if c = '\'' then l.quoted? (singleQuoted? [] rest)
    else if c = '"' then l.quoted? (doubleQuoted? .none rest)
    else if startsPlain l.inFlow s then l.plain?
    else none

/-- What is known behind blanks, comments and ends of lines. -/
def skipGap (l : Lexer) : Lexer :=
  let (length, mayStartKey) :=
    gap l.inFlow false l.mayStartKey (l.place.column = 0) l.place.rest
  { l with place := l.place.advance length, mayStartKey }

/-- One more token, behind the ends of the collections that it does not belong to. -/
def next? (l : Lexer) : Option Lexer := (l.closeBeyond l.place.column).token?

/-- All the tokens, if there are at most so many. -/
def run? : Nat → Lexer → Option Lexer
  | 0, _ => none
  | n + 1, l =>
    let l := l.skipGap
    if l.place.rest.isEmpty then l.closeAll.dropKey? else l.next?.bind (run? n)

end Lexer

/-- The tokens of a text. -/
def Token.ofText? (s : List Char) : Option (List Token) :=
  (Lexer.run? (s.length + 1) (Lexer.start s)).map fun l => l.tokens.toList

end LeasedStore.Yaml
