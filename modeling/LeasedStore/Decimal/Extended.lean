/-
Binary numbers of 64 significant bits, in which decimal text and binary numbers are turned into
each other.

* `Extended`: a significand times a power of two;
* `Extended.shifted`, `Extended.rounded`: a natural number cut to some of its bits, a half going to
  the even side;
* `Extended.mul`, `Extended.tenTo`: products and powers of ten, cut to 64 bits;
* `Extended.timesTenTo`: a number times a power of ten, by steps of a hundred, ten and one;
* `Extended.scaledToWord`: a number brought near the upper end of the words of 64 bits by such
  steps, and the power of ten that was taken out.

Every step is cut to 64 bits, so that the last digit of a decimal text may differ from that of the
exact value.
-/
import LeasedStore.Decimal.Binary

namespace LeasedStore.Decimal

/-- A positive binary number: `significand · 2 ^ exponent`. -/
structure Extended where
  significand : Nat
  exponent : Int
  deriving DecidableEq, Repr

namespace Extended

/-- A natural number over `2 ^ shift`, a half going to the even side. -/
def shifted (n shift : Nat) : Nat :=
  if shift = 0 then n
  else
    let down := n >>> shift
    let rest := n % Nat.pow 2 shift
    let half := Nat.pow 2 (shift - 1)
    if half < rest || (rest = half && down % 2 = 1) then down + 1 else down

/-- A natural number times a power of two, cut to some number of bits. -/
def rounded (bits n : Nat) (exponent : Int) : Extended :=
  let shift := n.log2 + 1 - bits
  ⟨shifted n shift, exponent + shift⟩

/-- The number of significant bits. -/
def precision : Nat := 64

/-- A natural number. -/
def ofNat (n : Nat) : Extended := rounded precision n 0

/-- The quotient of two natural numbers; bits beyond those that are kept count as a single one. -/
def ofQuotient (num den : Nat) : Extended :=
  let shift := den.log2 + precision + 2 - num.log2
  let lifted := num <<< shift
  let sticky := if lifted % den = 0 then 0 else 1
  rounded precision (2 * (lifted / den) + sticky) (-(shift : Int) - 1)

/-- The product of two numbers. -/
def mul (x y : Extended) : Extended :=
  rounded precision (x.significand * y.significand) (x.exponent + y.exponent)

/-- A power of ten. -/
def tenTo (e : Int) : Extended :=
  if 0 ≤ e then ofNat (Nat.pow 10 e.toNat) else ofQuotient 1 (Nat.pow 10 (-e).toNat)

/-- Is a number less than another one? -/
def lt (x y : Extended) : Bool :=
  let low := min x.exponent y.exponent
  x.significand <<< (x.exponent - low).toNat < y.significand <<< (y.exponent - low).toNat

/-- The natural number below. -/
def floor (x : Extended) : Nat :=
  if 0 ≤ x.exponent then x.significand <<< x.exponent.toNat
  else x.significand >>> (-x.exponent).toNat

/-! ### Steps by powers of ten -/

/-- A number times some power of a factor. -/
def timesRepeatedly (factor : Extended) : Nat → Extended → Extended
  | 0, x => x
  | n + 1, x => timesRepeatedly factor n (x.mul factor)

/-- A number times a power of ten: first the hundreds of the exponent, then its tens and ones. -/
def timesTenTo (x : Extended) (e : Int) : Extended :=
  let n := e.natAbs
  let step (k : Int) : Extended := tenTo (if 0 ≤ e then k else -k)
  let x := timesRepeatedly (step 100) (n / 100) x
  let x := timesRepeatedly (step 10) (n % 100 / 10) x
  timesRepeatedly (step 1) (n % 10) x

/-- A number, and the power of ten by which it stands for a larger or smaller one. -/
structure Scaled where
  value : Extended
  exponent : Int
  deriving DecidableEq, Repr

namespace Scaled

/-- Divided by `10 ^ k` as long as it is not below a bound. -/
def lower (bound k : Int) : Nat → Scaled → Scaled
  | 0, s => s
  | fuel + 1, s =>
    if s.value.lt (tenTo bound) then s
    else lower bound k fuel ⟨s.value.mul (tenTo (-k)), s.exponent + k⟩

/-- Multiplied by `10 ^ k` as long as it is below a bound. -/
def lift (bound k : Int) : Nat → Scaled → Scaled
  | 0, s => s
  | fuel + 1, s =>
    if s.value.lt (tenTo bound) then
      lift bound k fuel ⟨s.value.mul (tenTo k), s.exponent - k⟩
    else s

end Scaled

/-- A number brought between `10 ^ 17` and `10 ^ 19`. -/
def scaledToWord (x : Extended) : Scaled :=
  let s : Scaled := ⟨x, 0⟩
  if x.lt (tenTo 19) then
    ((s.lift (-97) 100 10).lift 7 10 20).lift 17 1 20
  else
    ((s.lower 119 100 10).lower 29 10 20).lower 19 1 20

end Extended

end LeasedStore.Decimal
