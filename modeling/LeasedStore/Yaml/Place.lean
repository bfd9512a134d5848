/-
Places in a YAML text.

Lines and columns matter, because indentation carries the structure.

* `Place`: the text that is still to be read, and where it starts;
* `Place.before`: how far it is to a later part of the text;
* `gap`: the blanks, comments and ends of lines at the head of a text.
-/
import LeasedStore.Yaml.Character

namespace LeasedStore.Yaml

/-- A place in a text. -/
structure Place where
  rest : List Char
  /-- The number of characters in front of the place. -/
  index : Nat
  line : Nat
  column : Nat
  deriving DecidableEq, Repr

namespace Place

/-- The start of a text. -/
def start (s : List Char) : Place := ⟨s, 0, 0, 0⟩

/-- The place behind a character. -/
def step (p : Place) : Place :=
  match p.rest with
  | [] => p
  | c :: rest =>
    if isBreak c then ⟨rest, p.index + 1, p.line + 1, 0⟩
    else ⟨rest, p.index + 1, p.line, p.column + 1⟩

/-- The place behind some characters. -/
def advance (p : Place) : Nat → Place
  | 0 => p
  | n + 1 => p.step.advance n

/-- The number of characters in front of a later part of the text. -/
def before (p : Place) (rest : List Char) : Nat := p.rest.length - rest.length

end Place

/-- The number of characters of the blanks, comments and ends of lines at the head of a text, and
whether a key may start behind them.  A tab is no blank where a key may start, and outside brackets
a key may start on every line; a byte order mark may be the first character of a line. -/
def gap (inFlow : Bool) : (inComment mayStartKey isFirst : Bool) → List Char → Nat × Bool
  | _, mayStartKey, _, [] => (0, mayStartKey)
  | inComment, mayStartKey, isFirst, c :: rest =>
    if isBreak c then
      Prod.map (· + 1) id (gap inFlow false (mayStartKey || !inFlow) true rest)
    else if inComment || c = ' ' || c = '#' || (c = '\t' && (inFlow || !mayStartKey)) ||
        (c = '\ufeff' && isFirst) then
      Prod.map (· + 1) id (gap inFlow (inComment || c = '#') mayStartKey false rest)
    else (0, mayStartKey)

end LeasedStore.Yaml
