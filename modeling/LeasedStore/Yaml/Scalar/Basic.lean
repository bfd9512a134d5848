/-
Scalars of YAML, and the gaps inside them.

* `Style`, `Scalar`: a text, how it is written, and its tag;
* `Gap.text`: what blanks and ends of lines between two words stand for: the end of a single line
  counts as a space, and of several ends the first is dropped.
-/
import LeasedStore.Yaml.Character

namespace LeasedStore.Yaml

/-- How a scalar is written. -/
inductive Style where
  | plain | quoted
  /-- Line by line below a bar. -/
  | literal
  /-- Line by line below an angle bracket. -/
  | folded
  deriving DecidableEq, Repr

/-- A scalar. -/
structure Scalar where
  style : Style
  tag : Option String
  text : String
  deriving DecidableEq, Repr

/-- The scalar that is not there. -/
def Scalar.empty : Scalar := ⟨.plain, none, ""⟩

/-- Blanks and ends of lines, the last of them first. -/
abbrev Gap := List Char

namespace Gap

/-- Does a line start behind the gap? -/
def endsLine (g : Gap) : Bool := g.head?.any isBreak

/-- What the ends of lines in a gap stand for. -/
def joined : List Char → List Char
  | ['\n'] => [' ']
  | '\n' :: more => more
  | breaks => breaks

/-- What a gap stands for. -/
def text (g : Gap) : List Char :=
  if g.any isBreak then joined (g.reverse.filter isBreak) else g.reverse

end Gap

end LeasedStore.Yaml
