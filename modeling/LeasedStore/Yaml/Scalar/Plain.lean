/-
Scalars without quotes.

* `startsPlain`: may one start here?
* `Plain.read?`: the scalar at the head of a text; it ends at a colon or a comment, inside brackets
  also at one of them or a comma, and outside where the indentation ends.
-/
import LeasedStore.Yaml.Scalar.Basic

namespace LeasedStore.Yaml

/-- The characters with which a scalar without quotes cannot start. -/
def reserved : List Char :=
  ['-', '?', ':', ',', '[', ']', '{', '}', '#', '&', '*', '!', '|', '>', '\'', '"', '%', '@',
    '\x60']

/-- May a scalar without quotes start here? -/
def startsPlain (inFlow : Bool) : List Char → Bool
  | [] => false
  | c :: rest =>
    (!isGap c && !reserved.contains c) || (c = '-' && !rest.head?.any isBlank) ||
      (!inFlow && (c = '?' || c = ':') && !endsWord rest)

/-- A scalar without quotes and what is behind it. -/
structure Plain where
  text : List Char
  rest : List Char
  /-- Does a line end between the scalar and the rest? -/
  endsLine : Bool
  deriving DecidableEq, Repr

namespace Plain

/-- A scalar with more text in front. -/
def prepend (cs : List Char) (p : Plain) : Plain := { p with text := cs ++ p.text }

/-- Can a colon that is followed by this text not stand inside brackets? -/
def isStrayColon (rest : List Char) : Bool := rest.head?.any fun c => c = '?' || isFlowIndicator c

/-- Does a scalar end at this character? -/
def endsAt (inFlow : Bool) (c : Char) (rest : List Char) : Bool :=
  (c = ':' && endsWord rest) || (inFlow && isFlowIndicator c)

/-- Does a scalar end behind a gap, in a column of this line? -/
def endsBehind (inFlow : Bool) (least column : Nat) (gap : Gap) (s : List Char) : Bool :=
  !gap.isEmpty && ((gap.any isBreak && !inFlow && column < least) || s.head? = some '#' ||
    (gap.endsLine && isMark s))

/-- The scalar whose next word may stand behind a gap; no line may start left of a column, outside
brackets, and no tab may stand there. -/
def readFrom? (inFlow : Bool) (least : Nat) : (column : Nat) → Gap → List Char → Option Plain
  | _, gap, [] => some ⟨[], [], gap.any isBreak⟩
  | column, gap, c :: rest =>
    if isBreak c then readFrom? inFlow least 0 (c :: gap) rest
    else if isBlank c then
      if c = '\t' && column < least && gap.any isBreak then none
      else readFrom? inFlow least (column + 1) (c :: gap) rest
    else if endsBehind inFlow least column gap (c :: rest) then
      some ⟨[], c :: rest, gap.any isBreak⟩
    else if inFlow && c = ':' && isStrayColon rest then none
    else if endsAt inFlow c rest then some ⟨[], c :: rest, gap.any isBreak⟩
    else (readFrom? inFlow least (column + 1) [] rest).map (prepend (gap.text ++ [c]))

/-- The scalar at the head of a text. -/
def read? (inFlow : Bool) (least : Nat) (s : List Char) : Option Plain :=
  readFrom? inFlow least 0 [] s

end Plain

end LeasedStore.Yaml
