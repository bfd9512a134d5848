/-
How large the numbers are that decimal text is turned into.

Every step of the conversion is cut to 64 bits, which makes a number larger by a small factor at
most.  The steps by which a number is multiplied by a power of ten are few, so that the product
stays below the exact one times a power of that factor.

* `Extended.value`: the value of an extended number;
* `Extended.slack`: the factor by which a step may enlarge a number;
* `Extended.value_mul_le`, `value_tenTo_le`: products and powers of ten are not much larger;
* `Extended.value_timesTenTo_le`, `value_timesTenTo_le_of_neg`: nor is a number times a power of
  ten;
* `Extended.lt_iff`: extended numbers are compared by their values;
* `RealNumber.exists_finite_ofExtended`: what is not beyond the largest number is finite.
-/
import LeasedStore.Decimal.Real
import Mathlib.Algebra.Order.Field.Power
import Mathlib.Data.Nat.Log
import Mathlib.Tactic.FieldSimp
import Mathlib.Tactic.Linarith
import Mathlib.Tactic.NormNum
import Mathlib.Tactic.Positivity
import Mathlib.Tactic.Ring

namespace LeasedStore.Decimal

namespace Extended

/-- The value of an extended number. -/
def value (x : Extended) : ℚ := x.significand * 2 ^ x.exponent

/-- The factor by which a number may grow when it is cut to 64 bits. -/
def slack : ℚ := 1 + 1 / 2 ^ 64

lemma one_le_slack : 1 ≤ slack := by norm_num [slack]

lemma value_nonneg (x : Extended) : 0 ≤ x.value := by
  rw [value]
  positivity

/-! ### Cutting -/

/-- A number that is cut is enlarged by half a unit at most. -/
lemma shifted_le (n shift : ℕ) : 2 * (shifted n shift * 2 ^ shift) ≤ 2 * n + 2 ^ shift := by
  rw [shifted]
  split
  · next h => simp [h]
  · next h =>
    obtain ⟨k, rfl⟩ : ∃ k, shift = k + 1 := ⟨shift - 1, by omega⟩
    have hn := Nat.div_add_mod n (2 ^ (k + 1))
    have hpow : 2 ^ (k + 1) = 2 * 2 ^ k := Nat.pow_succ'
    simp only [Nat.shiftRight_eq_div_pow, Nat.pow_eq, Nat.add_sub_cancel]
    -- quotient and rest are all that both sides are about
    generalize n / 2 ^ (k + 1) = q at hn
    generalize n % 2 ^ (k + 1) = r at hn
    rw [Nat.mul_comm] at hn
    split
    · next hup =>
      have hr : 2 ^ k ≤ r := by
        rcases Bool.or_eq_true_iff.mp hup with h | h
        · exact Nat.le_of_lt (of_decide_eq_true h)
        · exact Nat.le_of_eq (of_decide_eq_true (Bool.and_eq_true_iff.mp h).1).symm
      rw [Nat.add_mul]
      omega
    · omega

/-- A product that is cut to 64 bits is larger by the slack at most. -/
lemma value_rounded_le (n : ℕ) (e : ℤ) : (rounded precision n e).value ≤ n * 2 ^ e * slack := by
  rw [rounded, value, precision]
  dsimp only
  generalize hshift : n.log2 + 1 - 64 = shift
  have hcut : (2 * (shifted n shift * 2 ^ shift) : ℚ) ≤ 2 * n + 2 ^ shift := by
    exact_mod_cast shifted_le n shift
  -- a number that is cut keeps 64 bits, so the unit that is lost is small beside it
  have hunit : (2 ^ shift * 2 ^ 64 : ℚ) ≤ 2 * n ∨ shift = 0 := by
    by_cases h : shift = 0
    · exact .inr h
    · refine .inl ?_
      have hlog : 2 ^ n.log2 ≤ n := Nat.log2_self_le (by rintro rfl; simp at hshift; omega)
      have hpow : 2 ^ shift * 2 ^ 64 = 2 * 2 ^ n.log2 := by
        rw [← Nat.pow_add, ← Nat.pow_succ']
        congr 1
        omega
      exact_mod_cast (by omega : 2 ^ shift * 2 ^ 64 ≤ 2 * n)
  have hexp : (0 : ℚ) ≤ 2 ^ e := by positivity
  rw [zpow_add₀ two_ne_zero, zpow_natCast]
  rcases hunit with hunit | rfl
  · have hle : (shifted n shift * 2 ^ shift : ℚ) ≤ n * slack := by
      rw [slack]
      linarith
    calc (shifted n shift : ℚ) * (2 ^ e * 2 ^ shift)
        = shifted n shift * 2 ^ shift * 2 ^ e := by ring
      _ ≤ n * slack * 2 ^ e := mul_le_mul_of_nonneg_right hle hexp
      _ = n * 2 ^ e * slack := by ring
  · have hsame : shifted n 0 = n := rfl
    rw [hsame, pow_zero, mul_one]
    exact le_mul_of_one_le_right (by positivity) one_le_slack

lemma value_ofNat_le (n : ℕ) : (ofNat n).value ≤ n * slack := by
  simpa [ofNat] using value_rounded_le n 0

lemma value_mul_le (x y : Extended) : (x.mul y).value ≤ x.value * y.value * slack := by
  refine (value_rounded_le _ _).trans_eq ?_
  rw [value, value, zpow_add₀ two_ne_zero]
  push_cast
  ring

/-- A power of ten is larger than the exact one by the slack at most. -/
lemma value_tenTo_le (k : ℕ) : (tenTo k).value ≤ 10 ^ k * slack := by
  rw [tenTo, if_pos (Int.natCast_nonneg k), Int.toNat_natCast]
  refine (value_ofNat_le _).trans_eq ?_
  rw [Nat.pow_eq]
  push_cast
  rfl

/-! ### Steps by powers of ten -/

/-- Steps by one factor enlarge a number by its powers. -/
lemma value_timesRepeatedly_le {factor : Extended} {a : ℚ} (ha : factor.value * slack ≤ a) (n : ℕ)
    (x : Extended) : (timesRepeatedly factor n x).value ≤ x.value * a ^ n := by
  induction n generalizing x with
  | zero => simp [timesRepeatedly]
  | succ n ih =>
      have hslack : 0 ≤ slack := le_trans zero_le_one one_le_slack
      have hpos : 0 ≤ a := le_trans (mul_nonneg factor.value_nonneg hslack) ha
      calc (timesRepeatedly factor n (x.mul factor)).value
          ≤ (x.mul factor).value * a ^ n := ih _
        _ ≤ x.value * factor.value * slack * a ^ n :=
            mul_le_mul_of_nonneg_right (value_mul_le x factor) (pow_nonneg hpos n)
        _ = x.value * (factor.value * slack) * a ^ n := by ring
        _ ≤ x.value * a * a ^ n :=
            mul_le_mul_of_nonneg_right (mul_le_mul_of_nonneg_left ha x.value_nonneg)
              (pow_nonneg hpos n)
        _ = x.value * a ^ (n + 1) := by rw [pow_succ']; ring

/-- A number times a power of ten is not much larger than the exact product: there are few steps. -/
lemma value_timesTenTo_le (x : Extended) {n : ℕ} (hn : n < 400) :
    (x.timesTenTo n).value ≤ x.value * 10 ^ n * slack ^ 42 := by
  -- each step multiplies by a power that is rounded itself, and rounds once more
  have hstep (k : ℕ) : (tenTo k).value * slack ≤ 10 ^ k * slack ^ 2 := by
    refine (mul_le_mul_of_nonneg_right (value_tenTo_le k)
      (le_trans zero_le_one one_le_slack)).trans_eq ?_
    ring
  have hpos (k : ℕ) : (0 : ℚ) ≤ (10 ^ k * slack ^ 2) := by
    have := one_le_slack
    positivity
  rw [timesTenTo]
  simp only [Int.natAbs_natCast, Int.natCast_nonneg, if_true]
  calc _ ≤ x.value * (10 ^ 100 * slack ^ 2) ^ (n / 100) * (10 ^ 10 * slack ^ 2) ^ (n % 100 / 10) *
            (10 ^ 1 * slack ^ 2) ^ (n % 10) := by
        refine (value_timesRepeatedly_le (hstep 1) _ _).trans ?_
        refine mul_le_mul_of_nonneg_right ?_ (pow_nonneg (hpos 1) _)
        refine (value_timesRepeatedly_le (hstep 10) _ _).trans ?_
        refine mul_le_mul_of_nonneg_right ?_ (pow_nonneg (hpos 10) _)
        exact value_timesRepeatedly_le (hstep 100) _ _
    _ = x.value * 10 ^ n * slack ^ (2 * (n / 100 + n % 100 / 10 + n % 10)) := by
        have hsplit : (10 : ℚ) ^ n =
            10 ^ (100 * (n / 100)) * 10 ^ (10 * (n % 100 / 10)) * 10 ^ (1 * (n % 10)) := by
          rw [← pow_add, ← pow_add]
          congr 1
          omega
        rw [hsplit, mul_pow, mul_pow, mul_pow, ← pow_mul, ← pow_mul, ← pow_mul, ← pow_mul,
          ← pow_mul,
          ← pow_mul, mul_add, mul_add, pow_add, pow_add]
        ring
    _ ≤ x.value * 10 ^ n * slack ^ 42 := by
        refine mul_le_mul_of_nonneg_left (pow_le_pow_right₀ one_le_slack (by omega)) ?_
        have := x.value_nonneg
        positivity

/-- A power of ten with a negative exponent makes a number smaller. -/
lemma value_timesTenTo_le_of_neg (x : Extended) {e : ℤ} (he : e < 0) :
    (x.timesTenTo e).value ≤ x.value := by
  -- the factors are less than a half, so that no cut makes up for them
  have hstep (factor : Extended) (hf : factor.significand ≤ 2 ^ 64 ∧ factor.exponent ≤ -65) (n : ℕ)
      (x : Extended) : (timesRepeatedly factor n x).value ≤ x.value := by
    have hvalue : factor.value * slack ≤ 1 := by
      have hsignificand : (factor.significand : ℚ) ≤ 2 ^ 64 := by exact_mod_cast hf.1
      have hexponent : (2 : ℚ) ^ factor.exponent ≤ 2 ^ (-65 : ℤ) :=
        zpow_le_zpow_right₀ one_le_two hf.2
      calc factor.value * slack
          ≤ 2 ^ 64 * 2 ^ (-65 : ℤ) * slack :=
            mul_le_mul_of_nonneg_right (mul_le_mul hsignificand hexponent (by positivity)
              (by positivity)) (le_trans zero_le_one one_le_slack)
        _ ≤ 1 := by norm_num [slack]
    simpa using value_timesRepeatedly_le hvalue n x
  rw [timesTenTo]
  simp only [not_le.mpr he, if_false]
  refine (hstep _ ?_ _ _).trans ((hstep _ ?_ _ _).trans (hstep _ ?_ _ _)) <;> decide +kernel

/-! ### The largest number -/

/-- In units that are not larger than its own an extended number is a whole one. -/
lemma value_eq_shifted (x : Extended) {unit : ℤ} (h : unit ≤ x.exponent) :
    x.value = ((x.significand <<< (x.exponent - unit).toNat : ℕ) : ℚ) * 2 ^ unit := by
  have hexp : x.exponent = ((x.exponent - unit).toNat : ℤ) + unit := by omega
  rw [value, Nat.shiftLeft_eq]
  conv_lhs => rw [hexp]
  rw [zpow_add₀ two_ne_zero, zpow_natCast]
  push_cast
  ring

lemma lt_iff {x y : Extended} : x.lt y = true ↔ x.value < y.value := by
  rw [x.value_eq_shifted (min_le_left x.exponent y.exponent),
    y.value_eq_shifted (min_le_right x.exponent y.exponent), mul_lt_mul_iff_left₀ (by positivity),
    Nat.cast_lt, lt]
  simp

end Extended

namespace RealNumber

open Extended (value shifted)

/-- An encoding that is small enough is that of a finite number, whatever its sign is. -/
lemma isFiniteBits_of_lt {m : ℕ} (h : m < 2047 * 2 ^ 52) (negative : Bool) :
    isFiniteBits (m.toUInt64 ||| (if negative then 0x8000000000000000 else 0)) = true := by
  have hword : m.toUInt64.toNat = m := by
    rw [Nat.toUInt64, UInt64.toNat_ofNat']
    omega
  have hlow : (m >>> 52) &&& 2047 ≠ 2047 := by
    rw [Nat.and_two_pow_sub_one_eq_mod _ 11, Nat.shiftRight_eq_div_pow]
    omega
  rw [isFiniteBits, bne_iff_ne]
  intro heq
  refine hlow ?_
  have hbits := congrArg UInt64.toNat heq
  cases negative with
  | false => simpa [hword] using hbits
  | true => simpa [hword, Nat.shiftRight_or_distrib, Nat.and_or_distrib_right] using hbits

/-- The unit in the last place of the real number nearest to an extended one. -/
def unitOf (x : Extended) : ℤ := max (x.exponent + x.significand.log2 - 52) (-1074)

/-- An extended number in units of the last place. -/
def inUnits (x : Extended) : ℕ :=
  if unitOf x ≤ x.exponent then x.significand <<< (x.exponent - unitOf x).toNat
  else shifted x.significand (unitOf x - x.exponent).toNat

/-- An extended number is enlarged by half a unit at most. -/
lemma inUnits_le (x : Extended) : inUnits x * 2 ^ unitOf x ≤ x.value + 2 ^ unitOf x / 2 := by
  rw [inUnits]
  split
  · next h =>
    rw [← x.value_eq_shifted h]
    exact le_add_of_nonneg_right (by positivity)
  · next h =>
    generalize hshift : (unitOf x - x.exponent).toNat = shift
    have hunit : unitOf x = x.exponent + shift := by omega
    have hcut : (2 * (shifted x.significand shift * 2 ^ shift) : ℚ) ≤
        2 * x.significand + 2 ^ shift := by exact_mod_cast Extended.shifted_le x.significand shift
    have hexp : (0 : ℚ) ≤ 2 ^ x.exponent := by positivity
    rw [hunit, value, zpow_add₀ two_ne_zero, zpow_natCast]
    nlinarith

/-- An encoding is small enough if its unit is, unless a carry takes it beyond the last one. -/
lemma magnitude_lt_of_units {n : ℕ} {unit : ℤ} (hn : n ≤ 2 ^ 53) (hunit : unit ≤ 971)
    (htop : unit = 971 → n < 2 ^ 53) :
    n + (unit + 1074).toNat * 4503599627370496 < 2047 * 2 ^ 52 := by
  by_cases h : unit = 971
  · have hlt := htop h
    have hplaces : ((971 : ℤ) + 1074).toNat = 2045 := rfl
    rw [h, hplaces]
    omega
  · omega

lemma value_largest : largest.value = (2 ^ 53 - 1) * 2 ^ (971 : ℤ) := by
  rw [largest, value]
  norm_num

/-- What is not beyond the largest number has its leading digit below the exponent of infinity. -/
lemma exponent_add_log2_lt {x : Extended} (h : x.value ≤ largest.value) (hne : x.significand ≠ 0) :
    x.exponent + x.significand.log2 < 1024 := by
  have hlog : ((2 ^ x.significand.log2 : ℕ) : ℚ) ≤ x.significand := by
    exact_mod_cast Nat.log2_self_le hne
  have hlt : (2 : ℚ) ^ (x.exponent + x.significand.log2) < 2 ^ (1024 : ℤ) := by
    calc (2 : ℚ) ^ (x.exponent + x.significand.log2)
        = (2 ^ x.significand.log2 : ℕ) * 2 ^ x.exponent := by
          rw [zpow_add₀ two_ne_zero, zpow_natCast]
          push_cast
          ring
      _ ≤ x.value := mul_le_mul_of_nonneg_right hlog (by positivity)
      _ ≤ (2 ^ 53 - 1) * 2 ^ (971 : ℤ) := h.trans_eq value_largest
      _ < 2 ^ 53 * 2 ^ (971 : ℤ) := mul_lt_mul_of_pos_right (by norm_num) (by positivity)
      _ = 2 ^ (1024 : ℤ) := by
          rw [← zpow_natCast, ← zpow_add₀ two_ne_zero]
          norm_num
  exact (zpow_lt_zpow_iff_right₀ one_lt_two).mp hlt

/-- No number has more than so many units. -/
lemma inUnits_le_two_pow (x : Extended) : inUnits x ≤ 2 ^ 53 := by
  have hunits := inUnits_le x
  have hpos : (0 : ℚ) < 2 ^ unitOf x := by positivity
  have hlog : (x.significand : ℚ) < 2 ^ (x.significand.log2 + 1) := by
    exact_mod_cast Nat.lt_log2_self
  have hlt : x.value < 2 ^ 53 * 2 ^ unitOf x := by
    calc x.value < 2 ^ (x.significand.log2 + 1) * 2 ^ x.exponent :=
          mul_lt_mul_of_pos_right hlog (by positivity)
      _ = 2 ^ ((x.significand.log2 + 1 : ℕ) + x.exponent) := by
          rw [zpow_add₀ two_ne_zero, zpow_natCast]
      _ ≤ 2 ^ ((53 : ℕ) + unitOf x) := by
          refine zpow_le_zpow_right₀ one_le_two ?_
          rw [unitOf]
          omega
      _ = 2 ^ 53 * 2 ^ unitOf x := by rw [zpow_add₀ two_ne_zero, zpow_natCast]
  have hle : (inUnits x : ℚ) < 2 ^ 53 + 1 := by
    by_contra hge
    nlinarith
  have hnat : inUnits x < 2 ^ 53 + 1 := by exact_mod_cast hle
  omega

/-- What is not beyond the largest number has an encoding that is small enough. -/
lemma magnitude_lt {x : Extended} (h : x.value ≤ largest.value) (hne : inUnits x ≠ 0) :
    inUnits x + (unitOf x + 1074).toNat * 4503599627370496 < 2047 * 2 ^ 52 := by
  have hunits := inUnits_le x
  have hpos : (0 : ℚ) < 2 ^ unitOf x := by positivity
  have hsignificand : x.significand ≠ 0 := by
    intro hzero
    rw [value, hzero] at hunits
    have hone : (1 : ℚ) ≤ inUnits x := by exact_mod_cast Nat.one_le_iff_ne_zero.mpr hne
    nlinarith
  have hexponent := exponent_add_log2_lt h hsignificand
  have hunit : unitOf x ≤ 971 := max_le (by omega) (by norm_num)
  refine magnitude_lt_of_units (inUnits_le_two_pow x) hunit fun htop => ?_
  -- where the unit is that of the largest number, there is no room for a carry
  rw [htop] at hunits hpos
  rw [value_largest] at h
  generalize (2 : ℚ) ^ (971 : ℤ) = p at h hunits hpos
  have hle : (inUnits x : ℚ) < 2 ^ 53 := by
    by_contra hge
    have hmul := mul_le_mul_of_nonneg_right (not_lt.mp hge) hpos.le
    linarith
  exact_mod_cast hle

/-- What is not beyond the largest number is finite. -/
theorem exists_finite_ofExtended (negative : Bool) {x : Extended} (h : x.value ≤ largest.value) :
    ∃ bits hb, ofExtended negative x = finite bits hb := by
  have hmagnitude : (if inUnits x = 0 then 0
      else inUnits x + (unitOf x + 1074).toNat * 4503599627370496) < 2047 * 2 ^ 52 := by
    split
    · decide
    · next hne => exact magnitude_lt h hne
  have hbits := isFiniteBits_of_lt hmagnitude negative
  rw [ofExtended, if_neg (by rw [Extended.lt_iff]; exact not_lt.mpr h)]
  exact ⟨_, hbits, dif_pos hbits⟩

end RealNumber

end LeasedStore.Decimal
