/-
Signed words against integers and real numbers.

* `compare_toInt`: words are ordered as the integers that they are;
* `RealNumber.compareInt_of_level`: a real number that is level with a word is ordered like it;
* `RealNumber.isLE_compareInt_of_le`: a word is not beyond a real number that a larger one is not
  beyond.
-/
import Mathlib.Tactic.Common
import LeasedStore.Decimal.Real

namespace LeasedStore

lemma compare_toInt (m n : Int64) : compare m.toInt n.toInt = compare m n := by
  change compareOfLessAndEq m.toInt n.toInt = compareOfLessAndEq m n
  simp [compareOfLessAndEq, Int64.lt_iff_toInt_lt, Int64.toInt_inj]

lemma compare_mul_right {a b p : Int} (hp : 0 < p) : compare (a * p) (b * p) = compare a b := by
  have hlt : a * p < b * p ↔ a < b := Int.mul_lt_mul_right hp
  have heq : a * p = b * p ↔ a = b := Int.mul_eq_mul_right_iff (by omega)
  change compareOfLessAndEq (a * p) (b * p) = compareOfLessAndEq a b
  simp only [compareOfLessAndEq, hlt, heq]

namespace Decimal.RealNumber

variable {m n : Int64} {x : RealNumber}

lemma exists_compareInt (x : RealNumber) : ∃ p y : Int, 0 < p ∧
    ∀ n : Int64, compareInt n x = Ord.compare (n.toInt * p) y :=
  ⟨(Nat.pow 2 (0 - min 0 x.dyadic.exponent).toNat : Nat),
    x.dyadic.inUnits (min 0 x.dyadic.exponent),
    Int.natCast_pos.mpr (Nat.pow_pos Nat.zero_lt_two), fun _ => rfl⟩

/-- A real number that is level with a word is ordered like it. -/
lemma compareInt_of_level (h : compareInt n x = .eq) : compareInt m x = Ord.compare m n := by
  obtain ⟨p, y, hp, hx⟩ := exists_compareInt x
  have hlevel : n.toInt * p = y := Std.LawfulEqOrd.eq_of_compare ((hx n).symm.trans h)
  calc compareInt m x
      _ = Ord.compare (m.toInt * p) y := hx m
      _ = Ord.compare m.toInt n.toInt := by rw [← hlevel, compare_mul_right hp]
      _ = Ord.compare m n := compare_toInt m n

lemma isLE_compareInt_of_le (h : m ≤ n) (hn : (compareInt n x).isLE = true) :
    (compareInt m x).isLE = true := by
  obtain ⟨p, y, hp, hx⟩ := exists_compareInt x
  rw [hx, Int.isLE_compare] at hn ⊢
  exact Int.le_trans
    (Int.mul_le_mul_of_nonneg_right (Int64.le_iff_toInt_le.mp h) (Int.le_of_lt hp)) hn

end Decimal.RealNumber

end LeasedStore
