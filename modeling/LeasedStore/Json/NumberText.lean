/-
Numbers in JSON text.

* `NumberText`: the parts of a written number;
* `NumberText.read`: the parts at the head of a text, and the text behind them;
* `NumberText.pass`: the text behind a number that nobody wants to know;
* `NumberText.value`: an integer where there is neither fraction nor exponent and the range allows
  it, else a binary number, accumulated as `accumulate` and `scale` say.
-/
import LeasedStore.Json.Fault

namespace LeasedStore.Json

/-- The parts of a number as it is written. -/
structure NumberText where
  negative : Bool
  whole : List Char
  fraction : List Char
  /-- Is the sign of the exponent a minus, and its digits. -/
  exponent : Option (Bool × List Char)
  deriving DecidableEq, Repr

namespace NumberText

/-- The leading digits and the rest. -/
def spanDigits (s : List Char) : List Char × List Char :=
  (s.takeWhile Char.isDigit, s.dropWhile Char.isDigit)

/-- The digits of the whole part: a single zero, or a run that does not start with one. -/
def readWhole (s : List Char) : Except Fault.Syntactic (List Char × List Char) :=
  match s with
  | [] => .error .eofInValue
  | '0' :: r =>
    match r with
    | d :: _ => if d.isDigit then .error .invalidNumber else .ok (['0'], r)
    | [] => .ok (['0'], r)
  | c :: _ => if c.isDigit then .ok (spanDigits s) else .error .invalidNumber

/-- The digits of the fraction, none where there is no point. -/
def readFraction (s : List Char) : Except Fault.Syntactic (List Char × List Char) :=
  match s with
  | '.' :: r =>
    match spanDigits r with
    | ([], []) => .error .eofInValue
    | ([], _) => .error .invalidNumber
    | parts => .ok parts
  | _ => .ok ([], s)

/-- The sign and the digits of the exponent, where there is one. -/
def readExponent (s : List Char) :
    Except Fault.Syntactic (Option (Bool × List Char) × List Char) :=
  let digitsOf (negative : Bool) (r : List Char) :=
    match r with
    | [] => .error .eofInValue
    | c :: _ =>
      if c.isDigit then
        let (ds, rest) := spanDigits r
        .ok (some (negative, ds), rest)
      else .error .invalidNumber
  match s with
  | c :: r =>
    if c = 'e' ∨ c = 'E' then
      match r with
      | '+' :: r => digitsOf false r
      | '-' :: r => digitsOf true r
      | r => digitsOf false r
    else .ok (none, s)
  | [] => .ok (none, s)

/-- The number at the head of a text, and the text behind it. -/
def read (s : List Char) : Except Fault.Syntactic (NumberText × List Char) := do
  let (negative, s) := match s with
    | '-' :: r => (true, r)
    | _ => (false, s)
  let (whole, s) ← readWhole s
  let (fraction, s) ← readFraction s
  let (exponent, s) ← readExponent s
  return (⟨negative, whole, fraction, exponent⟩, s)

/-- The text behind a number that is not read; one that ends too early counts as badly written. -/
def pass (s : List Char) : Except Fault.Syntactic (List Char) :=
  match read s with
  | .ok (_, rest) => .ok rest
  | .error _ => .error .invalidNumber

/-! ### The value -/

/-- The largest word of 64 bits without a sign. -/
def maxWord : Nat := UInt64.size - 1

/-- Digits appended to a significand as long as it fits a word; how many of them were. -/
def accumulate (significand : Nat) : List Char → Nat × Nat
  | [] => (significand, 0)
  | c :: rest =>
    let next := significand * 10 + (c.toNat - '0'.toNat)
    if next ≤ maxWord then
      let (s, n) := accumulate next rest
      (s, n + 1)
    else (significand, 0)

/-- A power of ten, at most `10 ^ 308`, as a binary number. -/
def powerOfTen (e : Nat) : Float := Float.ofScientific 1 false e

/-- A binary number times a power of ten, in steps of `10 ^ 308` downwards; none where it gets too
large. -/
def scale (f : Float) (exponent : Int) : Nat → Option Float
  | 0 => some f
  | fuel + 1 =>
    if exponent.natAbs ≤ 308 then
      if 0 ≤ exponent then
        let g := f * powerOfTen exponent.natAbs
        if g.isInf then none else some g
      else some (f / powerOfTen exponent.natAbs)
    else if f == 0.0 then some f
    else if 0 ≤ exponent then none
    else scale (f / powerOfTen 308) (exponent + 308) fuel

/-- The number that a finite binary number is; none for the others. -/
def floatNumber? (f : Float) : Option Number :=
  if h : Decimal.isFiniteBits f.toBits = true then some (.float f.toBits h) else none

/-- The binary number of a significand and a power of ten. -/
def floatOf (negative : Bool) (significand : Nat) (exponent : Int) : Option Number :=
  (scale significand.toUInt64.toFloat exponent 8).bind fun f =>
    floatNumber? (if negative then -f else f)

/-- The largest exponent that is told apart from larger ones. -/
def maxExponent : Nat := 2147483647

/-- The value of a written number; none where it is too large. -/
def value (t : NumberText) : Option Number :=
  let (whole, used) := accumulate 0 t.whole
  if used = t.whole.length && t.fraction.isEmpty && t.exponent.isNone then
    let n : Int := if t.negative then -(whole : Int) else whole
    if h : IsExact n ∧ ¬ (t.negative = true ∧ whole = 0) then some (.int n h.1)
    else floatOf t.negative whole 0
  else
    let (significand, places) := accumulate whole t.fraction
    let shift : Int := (t.whole.length : Int) - used - places
    match t.exponent with
    | none => floatOf t.negative significand shift
    | some (negative, ds) =>
      let e := Nat.ofDigitChars 10 ds 0
      if maxExponent < e then
        if significand ≠ 0 && !negative then none
        else floatNumber? (if t.negative then -0.0 else 0.0)
      else floatOf t.negative significand (if negative then shift - e else shift + e)

end NumberText

end LeasedStore.Json
