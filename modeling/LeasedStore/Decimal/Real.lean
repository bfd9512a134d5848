/-
Real numbers of a database: the binary numbers of 64 bits and the two infinities.

* `RealNumber`: finite, or infinite on one side;
* `RealNumber.ofExtended`: the real number nearest to an extended one, infinite beyond the largest;
* `RealNumber.compare`: the order of their values, in which an infinity is beyond all the others;
* `RealNumber.integer?`: the signed word that a real number is, if it is one;
* `RealNumber.ofInt`, `RealNumber.add`: the real number nearest to an integer, and to a sum;
* `RealNumber.text`: fifteen significant digits.
-/
import LeasedStore.Decimal.Extended
import LeasedStore.Decimal.Layout
import LeasedStore.Text.Numeral

namespace LeasedStore.Decimal

/-- A real number: finite, or infinite on one side. -/
inductive RealNumber where
  | finite (bits : UInt64) (isFinite : isFiniteBits bits = true)
  | infinite (negative : Bool)
  deriving Repr

namespace RealNumber

/-- Finite numbers are equal if their encodings are, and infinities if their signs are. -/
instance : DecidableEq RealNumber
  | finite a _, finite b _ =>
    if h : a = b then isTrue (by subst h; rfl) else isFalse fun e => h (finite.inj e)
  | infinite a, infinite b =>
    if h : a = b then isTrue (by subst h; rfl) else isFalse fun e => h (infinite.inj e)
  | finite .., infinite _ => isFalse nofun
  | infinite _, finite .. => isFalse nofun

/-- The real number of an encoding; what stands for no finite number counts as infinite. -/
def ofBits (bits : UInt64) : RealNumber :=
  if h : isFiniteBits bits = true then .finite bits h else .infinite (bits >>> 63 == 1)

/-- The largest finite number. -/
def largest : Extended := ⟨9007199254740991, 971⟩

/-- The real number nearest to an extended one with a sign; infinite beyond the largest. -/
def ofExtended (negative : Bool) (x : Extended) : RealNumber :=
  if largest.lt x then .infinite negative
  else
    let unit := max (x.exponent + x.significand.log2 - 52) (-1074)
    let n :=
      if unit ≤ x.exponent then x.significand <<< (x.exponent - unit).toNat
      else Extended.shifted x.significand (unit - x.exponent).toNat
    -- a carry out of the significand raises the exponent by one, as it should
    let magnitude := if n = 0 then 0 else n + (unit + 1074).toNat * 4503599627370496
    ofBits (magnitude.toUInt64 ||| (if negative then 0x8000000000000000 else 0))

/-! ### Order -/

/-- A whole number times a power of two. -/
structure Dyadic where
  significand : Int
  exponent : Int
  deriving DecidableEq, Repr

/-- The whole number that a dyadic one is in units of a smaller power of two. -/
def Dyadic.inUnits (x : Dyadic) (unit : Int) : Int :=
  x.significand * (Nat.pow 2 (x.exponent - unit).toNat : Nat)

/-- The order of the values. -/
def Dyadic.compare (x y : Dyadic) : Ordering :=
  let unit := min x.exponent y.exponent
  Ord.compare (x.inUnits unit) (y.inUnits unit)

/-- The exact value; an infinity counts as a power of two beyond all the others. -/
def dyadic : RealNumber → Dyadic
  | finite bits _ =>
    let x := Binary64.ofBits bits
    ⟨if x.negative then -(x.significand : Int) else x.significand, x.exponent⟩
  | infinite negative => ⟨if negative then -1 else 1, 1024⟩

/-- The order of two real numbers. -/
def compare (x y : RealNumber) : Ordering := x.dyadic.compare y.dyadic

/-- The order of a whole and a real number. -/
def compareInt (n : Int64) (x : RealNumber) : Ordering := Dyadic.compare ⟨n.toInt, 0⟩ x.dyadic

/-- The signed word that a real number is, the outermost two excepted. -/
def integer? (x : RealNumber) : Option Int64 :=
  let d := x.dyadic
  let den : Int := (Nat.pow 2 (-d.exponent).toNat : Nat)
  let n := d.inUnits (min d.exponent 0) / den
  if d.inUnits (min d.exponent 0) % den = 0 ∧ -9223372036854775808 < n ∧ n < 9223372036854775807
  then some (Int64.ofInt n) else none

/-! ### Sums -/

/-- The real number nearest to an integer. -/
def ofInt (n : Int) : RealNumber := ofExtended (decide (n < 0)) ⟨n.natAbs, 0⟩

/-- The real number nearest to the sum of two finite ones. -/
def add (x y : RealNumber) : RealNumber :=
  let unit := min x.dyadic.exponent y.dyadic.exponent
  let n := x.dyadic.inUnits unit + y.dyadic.inUnits unit
  ofExtended (decide (n < 0)) ⟨n.natAbs, unit⟩

/-! ### Text -/

/-- A number rounded to `n` digits by its next one, a half going up, without trailing zeros. -/
def leadingDigits (n : Nat) (s : Extended.Scaled) : Scientific :=
  let digits := s.value.floor
  let surplus := (Nat.toDigits 10 digits).length - n
  let cut := (2 * digits + Nat.pow 10 surplus) / (2 * Nat.pow 10 surplus)
  Scientific.normalize ⟨cut, s.exponent + surplus⟩ (n + 1)

/-- The text of a real number: fifteen significant digits. -/
def text : RealNumber → String
  | finite bits _ =>
    let x := Binary64.ofBits bits
    Layout.column.write x.negative
      (if x.significand = 0 then ⟨0, 0⟩
      else leadingDigits 15 (Extended.scaledToWord ⟨x.significand, x.exponent⟩))
  | infinite negative => if negative then "-Inf" else "Inf"

end RealNumber

end LeasedStore.Decimal
