/-
Scalars line by line, below a bar or an angle bracket.

* `BlockHead.read?`: what the rest of the first line says about the end of the scalar and its
  indentation;
* `BlankLines.read?`: the blank lines in front of a line, and its indentation;
* `BlockLine`: a line of the scalar with the blank lines behind it;
* `block?`: the scalar; below a bar all lines are kept, below an angle bracket lines are joined.
-/
import LeasedStore.Yaml.Scalar.Basic

namespace LeasedStore.Yaml

/-! ### The first line -/

/-- What becomes of the ends of lines behind the last line. -/
inductive Chomping where
  | strip | clip | keep
  deriving DecidableEq, Repr

/-- What a sign says about the end of a scalar. -/
def chomping? (c : Char) : Option Chomping :=
  match c with
  | '+' => some .keep
  | '-' => some .strip
  | _ => none

/-- What the first line says: what becomes of the end, and how far the lines are indented below the
collection around them. -/
structure BlockHead where
  chomping : Chomping
  depth : Option Nat
  deriving DecidableEq, Repr

namespace BlockHead

/-- The depth that a digit gives, if one is there, and the text behind it; zero is no depth. -/
def depth? : List Char → Option (Option Nat × List Char)
  | [] => some (none, [])
  | c :: rest =>
    if c = '0' then none
    else if c.isDigit then some (some (c.toNat - '0'.toNat), rest)
    else some (none, c :: rest)

/-- The signs at the head of a text, in either order, and the text behind them. -/
def signs? (s : List Char) : Option (BlockHead × List Char) :=
  match s.head?.bind chomping? with
  | some chomping => (depth? (s.drop 1)).map fun d => (⟨chomping, d.1⟩, d.2)
  | none => do
    let (depth, rest) ← depth? s
    match if depth.isSome then rest.head?.bind chomping? else none with
    | some chomping => return (⟨chomping, depth⟩, rest.drop 1)
    | none => return (⟨.clip, depth⟩, rest)

/-- What the first line says, and the text below it. -/
def read? (s : List Char) : Option (BlockHead × List Char) := do
  let (head, rest) ← signs? s
  return (head, ← behindLine? rest)

end BlockHead

/-! ### Lines -/

/-- Blank lines. -/
structure BlankLines where
  /-- The ends of the lines. -/
  breaks : List Char
  /-- The number of the blanks at the head of the line behind them. -/
  column : Nat
  /-- The greatest number of blanks at the head of one of all these lines. -/
  widest : Nat
  /-- The text behind those blanks. -/
  rest : List Char
  deriving DecidableEq, Repr

namespace BlankLines

/-- Is a column left of the indentation, as far as that is known? -/
def isIndent (indent : Option Nat) (column : Nat) : Bool := indent.all (column < ·)

/-- The blank lines at the head of a text; no tab may stand in the indentation. -/
def read? (indent : Option Nat) : (column widest : Nat) → List Char → Option BlankLines
  | column, widest, [] => some ⟨[], column, max widest column, []⟩
  | column, widest, c :: rest =>
    if c = ' ' && isIndent indent column then read? indent (column + 1) widest rest
    else if c = '\t' && isIndent indent column then none
    else if isBreak c then
      (read? indent 0 (max widest column) rest).map fun b => { b with breaks := c :: b.breaks }
    else some ⟨[], column, max widest column, c :: rest⟩

end BlankLines

/-- A line of a scalar, without its indentation. -/
structure BlockLine where
  text : List Char
  /-- The end of the line, if it has one. -/
  lineEnd : List Char
  /-- The ends of the blank lines behind it. -/
  after : List Char
  deriving DecidableEq, Repr

namespace BlockLine

/-- Does the line start with a blank? -/
def isDeeper (l : BlockLine) : Bool := l.text.head?.any isBlank

/-- What stands between two lines. -/
def joint (isFolded : Bool) (l next : BlockLine) : List Char :=
  if isFolded && l.lineEnd = ['\n'] && !l.isDeeper && !next.isDeeper then
    if l.after.isEmpty then [' '] else l.after
  else l.lineEnd ++ l.after

/-- What stands behind the last line. -/
def ending (chomping : Chomping) (l : BlockLine) : List Char :=
  match chomping with
  | .strip => []
  | .clip => l.lineEnd
  | .keep => l.lineEnd ++ l.after

/-- The text of a line and of those behind it. -/
def textOf (isFolded : Bool) (chomping : Chomping) : BlockLine → List BlockLine → List Char
  | l, [] => l.text ++ l.ending chomping
  | l, next :: more => l.text ++ joint isFolded l next ++ textOf isFolded chomping next more

/-- At most so many lines of a scalar at the head of a text, which starts in a column, and the text
behind them. -/
def readUpTo? (indent : Nat) : Nat → (column : Nat) → List Char →
    Option (List BlockLine × List Char)
  | 0, _, s => some ([], s)
  | n + 1, column, s =>
    if column ≠ indent || s.isEmpty then some ([], s)
    else do
      let text := s.takeWhile fun c => !isBreak c
      let behind := s.drop text.length
      let blank ← BlankLines.read? (some indent) 0 0 (behind.drop 1)
      let (more, rest) ← readUpTo? indent n blank.column blank.rest
      return (⟨text, behind.take 1, blank.breaks⟩ :: more, rest)

end BlockLine

/-- The scalar whose first line starts behind its sign, and the text behind the scalar; `outer` is
the column of the collection around it. -/
def block? (isFolded : Bool) (outer : Option Nat) (s : List Char) :
    Option (List Char × List Char) := do
  let (head, below) ← BlockHead.read? s
  let given := head.depth.map fun d => outer.getD 0 + d
  let blank ← BlankLines.read? given 0 0 below
  let least := max 1 (outer.elim 0 (· + 1))
  let indent := given.getD (max least blank.widest)
  let (lines, rest) ← BlockLine.readUpTo? indent below.length blank.column blank.rest
  match lines with
  | [] => return (if head.chomping = .keep then blank.breaks else [], rest)
  | l :: more => return (blank.breaks ++ BlockLine.textOf isFolded head.chomping l more, rest)

end LeasedStore.Yaml
