/-
Binary numbers of 64 bits as exact values: a significand times a power of two.

* `Binary64`: sign, significand and exponent of a finite number;
* `Binary64.ofBits`: the parts of an encoding;
* `isFiniteBits`: neither infinite nor undefined;
* `Binary64.quarterUnit`: a quarter of the unit in the last place, in which the borders
  between neighbouring numbers are whole numbers.
-/
namespace LeasedStore.Decimal

/-- Does the encoding stand for a finite number? -/
def isFiniteBits (bits : UInt64) : Bool := (bits >>> 52) &&& 0x7FF != 0x7FF

/-- A finite binary number: `± significand · 2 ^ exponent`. -/
structure Binary64 where
  negative : Bool
  significand : Nat
  exponent : Int
  /-- Is the gap to the next smaller number half the gap to the next larger one? -/
  lowerGapHalved : Bool
  deriving DecidableEq, Repr

namespace Binary64

/-- The parts of the encoding of a finite number. -/
def ofBits (bits : UInt64) : Binary64 :=
  let biased := ((bits >>> 52) &&& 0x7FF).toNat
  let fraction := (bits &&& 0xFFFFFFFFFFFFF).toNat
  { negative := bits >>> 63 == 1
    significand := if biased = 0 then fraction else 4503599627370496 + fraction
    exponent := if biased = 0 then -1074 else (biased : Int) - 1075
    lowerGapHalved := fraction = 0 && 1 < biased }

/-- A fraction of natural numbers. -/
structure Ratio where
  num : Nat
  den : Nat
  deriving DecidableEq, Repr

/-- A quarter of the unit in the last place, as a fraction. -/
def quarterUnit (x : Binary64) : Ratio :=
  let e := x.exponent - 2
  if 0 ≤ e then ⟨Nat.pow 2 e.toNat, 1⟩ else ⟨1, Nat.pow 2 (-e).toNat⟩

/-- The magnitude as a fraction. -/
def magnitude (x : Binary64) : Ratio :=
  ⟨4 * x.significand * x.quarterUnit.num, x.quarterUnit.den⟩

end Binary64

/-- A positive decimal number: `digits · 10 ^ exponent`. -/
structure Scientific where
  digits : Nat
  exponent : Int
  deriving DecidableEq, Repr

/-- The least `k` with `num / den < 10 ^ k`, for a positive fraction. -/
def decimalMagnitude (r : Binary64.Ratio) : Int :=
  if r.den ≤ r.num then
    ((Nat.toDigits 10 (r.num / r.den)).length : Int)
  else
    -- the first power of ten that lifts the fraction to one or above
    Int.negOfNat (((List.range 400).find? fun j => r.den ≤ r.num * Nat.pow 10 (j + 1)).getD 400)

/-- The fraction over the power `10 ^ e` of ten, as a fraction. -/
def overPowerOfTen (r : Binary64.Ratio) (e : Int) : Binary64.Ratio :=
  if 0 ≤ e then ⟨r.num, r.den * Nat.pow 10 e.toNat⟩ else ⟨r.num * Nat.pow 10 (-e).toNat, r.den⟩

/-- Trailing zeros of the digits moved into the exponent. -/
def Scientific.normalize (s : Scientific) : Nat → Scientific
  | 0 => s
  | fuel + 1 =>
    if s.digits ≠ 0 && s.digits % 10 = 0 then
      normalize ⟨s.digits / 10, s.exponent + 1⟩ fuel
    else s

end LeasedStore.Decimal
