/-
Numbers of JSON text are read as finite numbers.

The shortest decimal of a binary number lies between its neighbours.  It is therefore below the
largest number by more than what the reader may add, unless it is the largest number itself, of
which the shortest decimal is rounded down.

* `Scientific.value`: the value of a decimal;
* `shortest_le`: the shortest decimal is not beyond the middle to the next larger number;
* `value_shortest_le`: nor is it too close to the largest number;
* `Layout.value_written_le`: laid out as text it is no larger than before, or small;
* `exists_finite_real`: a number of JSON is read as a finite number.
-/
import LeasedStore.Proofs.Decimal.Value
import LeasedStore.Proofs.Json5.Numbers

namespace LeasedStore.Decimal

open Extended (slack)
open RealNumber (value_largest)

/-! ### Decimals -/

/-- The value of a decimal. -/
def Scientific.value (s : Scientific) : ℚ := s.digits * 10 ^ s.exponent

/-- Trailing zeros are moved into the exponent without a loss. -/
lemma Scientific.value_normalize (fuel : ℕ) (s : Scientific) :
    (s.normalize fuel).value = s.value := by
  induction fuel generalizing s with
  | zero => rfl
  | succ fuel ih =>
      rw [normalize]
      split
      · next hzero =>
        have hmod : s.digits % 10 = 0 := by simp_all
        have hdiv : (s.digits : ℚ) = (s.digits / 10 : ℕ) * 10 := by
          exact_mod_cast (Nat.div_mul_cancel (Nat.dvd_of_mod_eq_zero hmod)).symm
        rw [ih, value, value, zpow_add_one₀ (by norm_num), hdiv]
        ring
      · rfl

/-- A fraction over a power of ten, as a value. -/
lemma overPowerOfTen_eq (r : Binary64.Ratio) (hden : r.den ≠ 0) (e : ℤ) :
    ((overPowerOfTen r e).num : ℚ) / (overPowerOfTen r e).den * 10 ^ e = r.num / r.den ∧
      (overPowerOfTen r e).den ≠ 0 := by
  have hten : (10 : ℚ) ≠ 0 := by norm_num
  have hden' : (r.den : ℚ) ≠ 0 := by exact_mod_cast hden
  rw [overPowerOfTen]
  split
  · next he =>
    obtain ⟨n, rfl⟩ := Int.eq_ofNat_of_zero_le he
    refine ⟨?_, by simp [hden]⟩
    rw [Int.toNat_natCast, Nat.pow_eq, zpow_natCast]
    push_cast
    field_simp
  · next he =>
    obtain ⟨n, hn⟩ := Int.eq_ofNat_of_zero_le (show 0 ≤ -e by omega)
    obtain rfl : e = -n := by omega
    refine ⟨?_, hden⟩
    rw [neg_neg, Int.toNat_natCast, Nat.pow_eq, zpow_neg, zpow_natCast]
    push_cast
    field_simp

/-! ### The shortest decimal -/

namespace Binary64

/-- A quarter of the unit in the last place, as a value. -/
lemma quarterUnit_eq (x : Binary64) :
    (x.quarterUnit.num : ℚ) / x.quarterUnit.den = 2 ^ (x.exponent - 2) ∧ x.quarterUnit.den ≠ 0 := by
  rw [quarterUnit]
  split
  · next he =>
    obtain ⟨n, hn⟩ := Int.eq_ofNat_of_zero_le he
    rw [hn]
    simp
  · next he =>
    obtain ⟨n, hn⟩ := Int.eq_ofNat_of_zero_le (show 0 ≤ -(x.exponent - 2) by omega)
    obtain hexp : x.exponent - 2 = -n := by omega
    rw [hexp]
    simp

/-- The middle between a number and the next larger one. -/
def middleAbove (x : Binary64) : ℚ := (4 * x.significand + 2) * 2 ^ (x.exponent - 2)

end Binary64

variable {x : Binary64}

/-- What rounds to a number is not beyond the middle to the next larger one. -/
lemma le_of_readsBackAs {d : ℕ} {e : ℤ} (h : readsBackAs x d e = true) :
    (⟨d, e⟩ : Scientific).value ≤ x.middleAbove := by
  obtain ⟨hunit, hden⟩ := x.quarterUnit_eq
  obtain ⟨hover, hden'⟩ := overPowerOfTen_eq ⟨x.quarterUnit.num, x.quarterUnit.den⟩ hden e
  rw [hunit] at hover
  rw [readsBackAs] at h
  generalize overPowerOfTen ⟨x.quarterUnit.num, x.quarterUnit.den⟩ e = unit at h hover hden'
  have hle : d * unit.den ≤ (4 * x.significand + 2) * unit.num := by
    split at h
    · exact of_decide_eq_true (Bool.and_eq_true_iff.mp h).2
    · exact Nat.le_of_lt (of_decide_eq_true (Bool.and_eq_true_iff.mp h).2)
  have hcast : (d * unit.den : ℚ) ≤ (4 * x.significand + 2) * unit.num := by exact_mod_cast hle
  have hpos : (0 : ℚ) < unit.den := by exact_mod_cast Nat.pos_of_ne_zero hden'
  have hexp : (0 : ℚ) < 10 ^ e := by positivity
  rw [Scientific.value, Binary64.middleAbove, ← hover]
  calc (d : ℚ) * 10 ^ e = d * unit.den / unit.den * 10 ^ e := by
        field_simp
    _ ≤ (4 * x.significand + 2) * unit.num / unit.den * 10 ^ e :=
        mul_le_mul_of_nonneg_right (div_le_div_of_nonneg_right hcast hpos.le) hexp.le
    _ = (4 * x.significand + 2) * (unit.num / unit.den * 10 ^ e) := by ring

/-- A candidate rounds to the number. -/
lemma readsBackAs_of_candidate? {k : ℤ} {n : ℕ} {s : Scientific} (h : candidate? x k n = some s) :
    readsBackAs x s.digits s.exponent = true := by
  rw [candidate?] at h
  split at h
  · next hdown hup => split at h <;> cases h <;> assumption
  · next hdown hup => cases h; assumption
  · next hdown hup => cases h; assumption
  · cases h

/-- The shortest decimal is not beyond the middle to the next larger number. -/
lemma shortest_le (x : Binary64) : (shortest x).value ≤ x.middleAbove := by
  rw [shortest]
  split
  · next s hs =>
    obtain ⟨n, -, hn⟩ := List.exists_of_findSome?_eq_some hs
    rw [Scientific.value_normalize]
    exact le_of_readsBackAs (readsBackAs_of_candidate? hn)
  · rw [Scientific.value, Binary64.middleAbove]
    simp only [Nat.cast_zero, zero_mul]
    positivity

/-! ### The largest number -/

/-- The parts of a finite number are bounded. -/
lemma Binary64.ofBits_bounds {bits : UInt64} (h : isFiniteBits bits = true) :
    (Binary64.ofBits bits).significand < 2 ^ 53 ∧ (Binary64.ofBits bits).exponent ≤ 971 ∧
      ((Binary64.ofBits bits).significand = 2 ^ 53 - 1 →
        (Binary64.ofBits bits).lowerGapHalved = false) := by
  -- both fields are masked, and the exponent of a finite number is not all ones
  have hbiased : ((bits >>> 52) &&& 0x7FF).toNat < 2047 := by
    have hle : ((bits >>> 52) &&& 0x7FF).toNat ≤ 2047 := by
      rw [UInt64.toNat_and]
      exact Nat.and_le_right
    refine lt_of_le_of_ne hle fun heq => ?_
    rw [isFiniteBits, bne_iff_ne] at h
    exact h (UInt64.toNat_inj.mp heq)
  have hfraction : (bits &&& 0xFFFFFFFFFFFFF).toNat ≤ 2 ^ 52 - 1 := by
    rw [UInt64.toNat_and]
    exact Nat.and_le_right
  rw [ofBits]
  dsimp only
  generalize ((bits >>> 52) &&& 0x7FF).toNat = biased at *
  generalize (bits &&& 0xFFFFFFFFFFFFF).toNat = fraction at *
  refine ⟨?_, ?_, fun hmax => ?_⟩
  · split <;> omega
  · split <;> omega
  · have hne : fraction ≠ 0 := by
      rintro rfl
      split at hmax <;> omega
    simp [hne]

lemma slack_pow_le : slack ^ 43 ≤ 1 + 1 / 2 ^ 58 := by norm_num [slack]

/-- The shortest decimal of the largest number is rounded down. -/
lemma shortest_largest (negative : Bool) :
    (shortest ⟨negative, 2 ^ 53 - 1, 971, false⟩).value * slack ^ 43 ≤
      RealNumber.largest.value := by
  have hshortest : shortest ⟨negative, 2 ^ 53 - 1, 971, false⟩ = ⟨17976931348623157, 292⟩ := by
    cases negative <;> decide +kernel
  have hnat : 17976931348623157 * 10 ^ 292 * (2 ^ 58 + 1) ≤ (2 ^ 53 - 1) * 2 ^ 971 * 2 ^ 58 := by
    decide +kernel
  have hcast : (17976931348623157 * 10 ^ 292 * (2 ^ 58 + 1) : ℚ) ≤
      ((2 ^ 53 - 1 : ℕ) * 2 ^ 971) * 2 ^ 58 := by exact_mod_cast hnat
  rw [hshortest, Scientific.value, value_largest]
  have hten : (10 : ℚ) ^ (292 : ℤ) = 10 ^ 292 := zpow_natCast 10 292
  have htwo : (2 : ℚ) ^ (971 : ℤ) = 2 ^ 971 := zpow_natCast 2 971
  rw [hten, htwo]
  have hpos : (0 : ℚ) ≤ 10 ^ 292 := by positivity
  generalize (10 : ℚ) ^ 292 = p at hcast hpos ⊢
  generalize (2 : ℚ) ^ 971 = q at hcast ⊢
  calc (17976931348623157 : ℕ) * p * slack ^ 43
      ≤ (17976931348623157 : ℕ) * p * (1 + 1 / 2 ^ 58) :=
        mul_le_mul_of_nonneg_left slack_pow_le (mul_nonneg (Nat.cast_nonneg _) hpos)
    _ = 17976931348623157 * p * (2 ^ 58 + 1) / 2 ^ 58 := by
        push_cast
        ring
    _ ≤ (2 ^ 53 - 1 : ℕ) * q * 2 ^ 58 / 2 ^ 58 := div_le_div_of_nonneg_right hcast (by positivity)
    _ = (2 ^ 53 - 1) * q := by
        rw [mul_div_cancel_right₀ _ (by positivity)]
        norm_num

/-- All other numbers are further away from the largest one than the reader may add. -/
lemma Binary64.middleAbove_le (hs : x.significand < 2 ^ 53) (he : x.exponent ≤ 971)
    (hne : ¬ (x.significand = 2 ^ 53 - 1 ∧ x.exponent = 971)) :
    x.middleAbove ≤ (2 ^ 55 - 6) * 2 ^ (969 : ℤ) := by
  rw [middleAbove]
  -- at the largest exponent the significand is not the largest one, so a unit is left
  rcases lt_or_eq_of_le he with hlt | heq
  · have hle : (x.significand + 1 : ℚ) ≤ 2 ^ 53 := by exact_mod_cast hs
    calc (4 * x.significand + 2) * (2 : ℚ) ^ (x.exponent - 2)
        ≤ (4 * (2 ^ 53 - 1) + 2) * 2 ^ (968 : ℤ) :=
          mul_le_mul (by linarith) (zpow_le_zpow_right₀ one_le_two (by omega)) (by positivity)
            (by norm_num)
      _ ≤ (2 ^ 55 - 6) * 2 * 2 ^ (968 : ℤ) :=
          mul_le_mul_of_nonneg_right (by norm_num) (by positivity)
      _ = (2 ^ 55 - 6) * 2 ^ (969 : ℤ) := by
          rw [mul_assoc, ← zpow_one_add₀ two_ne_zero]
          norm_num
  · have hnat : x.significand + 2 ≤ 2 ^ 53 := by omega
    have hle : (x.significand + 2 : ℚ) ≤ 2 ^ 53 := by exact_mod_cast hnat
    have hexp : x.exponent - 2 = 969 := by omega
    rw [hexp]
    exact mul_le_mul_of_nonneg_right (by linarith) (by positivity)

/-- The shortest decimal of a finite number is not too close to the largest number. -/
theorem value_shortest_le {bits : UInt64} (h : isFiniteBits bits = true) :
    (shortest (Binary64.ofBits bits)).value * slack ^ 43 ≤ RealNumber.largest.value := by
  obtain ⟨hsignificand, hexponent, hgap⟩ := Binary64.ofBits_bounds h
  generalize Binary64.ofBits bits = x at *
  -- only the largest number itself comes close to the bound
  by_cases hmax : x.significand = 2 ^ 53 - 1 ∧ x.exponent = 971
  · obtain ⟨negative, significand, exponent, gap⟩ := x
    obtain ⟨rfl, rfl⟩ := hmax
    cases hgap rfl
    exact shortest_largest negative
  · have hmiddle := (shortest_le x).trans (Binary64.middleAbove_le hsignificand hexponent hmax)
    have hone := Extended.one_le_slack
    have hpos : (0 : ℚ) ≤ 2 ^ (969 : ℤ) := by positivity
    calc (shortest x).value * slack ^ 43
        ≤ (2 ^ 55 - 6) * 2 ^ (969 : ℤ) * (1 + 1 / 2 ^ 58) :=
          mul_le_mul hmiddle slack_pow_le (by positivity) (mul_nonneg (by norm_num) hpos)
      _ = (2 ^ 55 - 6) * (1 + 1 / 2 ^ 58) * 2 ^ (969 : ℤ) := by ring
      _ ≤ (2 ^ 53 - 1) * 4 * 2 ^ (969 : ℤ) := mul_le_mul_of_nonneg_right (by norm_num) hpos
      _ = (2 ^ 53 - 1) * (2 ^ (2 : ℤ) * 2 ^ (969 : ℤ)) := by
          have hfour : (2 : ℚ) ^ (2 : ℤ) = 4 := by norm_num
          rw [hfour, mul_assoc]
      _ = RealNumber.largest.value := by
          rw [← zpow_add₀ two_ne_zero]
          exact value_largest.symm

/-! ### Texts of decimals -/

namespace Layout

open Written (exponentSize)

variable {l : Layout} {s : Scientific}

/-- The digits around a point are those of the decimal. -/
lemma value_positionalParts (s : Scientific) :
    (Nat.ofDigitChars 10 ((positionalParts s).1 ++ (positionalParts s).2) 0 : ℚ) *
      10 ^ (-((positionalParts s).2.length : ℤ)) = s.value := by
  rw [positionalParts, Scientific.value]
  -- zeros stand behind the digits, or the point is among them, or zeros stand in front
  split
  · next he =>
    obtain ⟨n, hn⟩ := Int.eq_ofNat_of_zero_le he
    rw [hn, Int.toNat_natCast, Nat.ofDigitChars_append, Nat.ofDigitChars_append,
      Nat.ofDigitChars_ten_toDigits, Nat.ofDigitChars_replicate_zero, zpow_natCast]
    have hlast (m : ℕ) : Nat.ofDigitChars 10 ['0'] m = 10 * m :=
      Nat.ofDigitChars_replicate_zero (n := 1)
    rw [hlast]
    norm_num
    ring
  · next he =>
    obtain ⟨n, hn⟩ := Int.eq_ofNat_of_zero_le (show 0 ≤ -s.exponent by omega)
    obtain hexp : s.exponent = -n := by omega
    rw [hexp, neg_neg, Int.toNat_natCast]
    dsimp only
    split
    · next hplaces =>
      rw [List.take_append_drop, Nat.ofDigitChars_ten_toDigits, List.length_drop]
      congr 3
      omega
    · next hplaces =>
      rw [List.singleton_append, Nat.ofDigitChars_cons, Nat.ofDigitChars_append,
        Nat.ofDigitChars_replicate_zero]
      have hzero : 10 * 0 + ('0'.toNat - '0'.toNat) = 0 := rfl
      rw [hzero, Nat.mul_zero, Nat.ofDigitChars_ten_toDigits, List.length_append,
        List.length_replicate]
      congr 3
      omega

/-- The digits of a mantissa in JSON are those of the decimal. -/
lemma getD_mantissaFraction (s : Scientific) :
    (json.mantissaFraction s).getD [] = (Nat.toDigits 10 s.digits).drop 1 := by
  rw [mantissaFraction]
  split
  · next hds => rw [hds]; rfl
  · next hds => rw [hds]; rfl
  · next hds => rw [hds]; rfl

/-- An exponent is not read as a larger one than is written. -/
lemma exponentSize_padded_le (width n : ℕ) : exponentSize (padded width n).toList ≤ n := by
  have hfold (ds : List Char) : ∀ m n, m ≤ n →
      ds.foldl (fun e c => if e < 10000 then Written.appendDigit e c else 10000) m ≤
        Nat.ofDigitChars 10 ds n := by
    induction ds with
    | nil => exact fun m n h => h
    | cons c ds ih =>
        intro m n h
        rw [List.foldl_cons, Nat.ofDigitChars_cons]
        refine ih _ _ ?_
        split
        · rw [Written.appendDigit_eq]
          omega
        · omega
  refine (hfold _ 0 0 (Nat.le_refl 0)).trans_eq ?_
  rw [padded, String.toList_append, String.toList_ofList, Nat.toList_repr, Nat.ofDigitChars_append,
    Nat.ofDigitChars_replicate_zero, Nat.mul_zero, Nat.ofDigitChars_ten_toDigits]

/-- A decimal that is written with an exponent is no larger than before, or less than ten. -/
lemma value_exponential_le (negative : Bool) (s : Scientific) :
    (⟨negative, (Nat.toDigits 10 s.digits).take 1, json.mantissaFraction s,
      some (decide (leadingExponent s < 0),
        (padded json.exponentDigits (leadingExponent s).natAbs).toList)⟩ : Written).value ≤
      max s.value 10 := by
  rw [Written.value, Written.digits, Written.places, Written.exponentValue]
  dsimp only
  rw [getD_mantissaFraction, List.take_append_drop, Nat.ofDigitChars_ten_toDigits,
    List.length_drop]
  have hlength := Nat.length_toDigits_pos (b := 10) (n := s.digits)
  have hten : (1 : ℚ) ≤ 10 := by norm_num
  have hdigits : (0 : ℚ) ≤ s.digits := Nat.cast_nonneg _
  split
  · next hneg =>
    -- even if its exponent is read as zero the number is less than ten
    refine le_max_of_le_right ?_
    have hlt : (s.digits : ℚ) < 10 ^ (Nat.toDigits 10 s.digits).length := by
      exact_mod_cast (Nat.length_toDigits_le_iff (by decide) hlength).mp (Nat.le_refl _)
    calc _ ≤ (s.digits : ℚ) * 10 ^ (1 - ((Nat.toDigits 10 s.digits).length : ℤ)) :=
          mul_le_mul_of_nonneg_left (zpow_le_zpow_right₀ hten (by omega)) hdigits
      _ ≤ 10 ^ (Nat.toDigits 10 s.digits).length *
            10 ^ (1 - ((Nat.toDigits 10 s.digits).length : ℤ)) :=
          mul_le_mul_of_nonneg_right hlt.le (by positivity)
      _ = 10 := by
          rw [← zpow_natCast, ← zpow_add₀ (by norm_num)]
          norm_num
  · next hpos =>
    have hsize := exponentSize_padded_le json.exponentDigits (leadingExponent s).natAbs
    have hlead : leadingExponent s = s.exponent + (Nat.toDigits 10 s.digits).length - 1 := rfl
    refine le_max_of_le_left ?_
    rw [Scientific.value]
    refine mul_le_mul_of_nonneg_left (zpow_le_zpow_right₀ hten ?_) hdigits
    rw [decide_eq_true_eq] at hpos
    omega

/-- A decimal that is laid out as text is no larger than before, or less than ten. -/
theorem value_written_le (negative : Bool) (s : Scientific) :
    (json.written negative s).value ≤ max s.value 10 := by
  rw [written, magnitude]
  generalize (negative && (decide (s.digits ≠ 0) || json.signedZero)) = b
  split
  · have hzero : Nat.ofDigitChars 10 ['0', '0'] 0 = 0 := rfl
    simp [Written.value, Written.digits, hzero]
  · dsimp only
    split
    · refine le_max_of_le_left (le_of_eq ?_)
      rw [← value_positionalParts s]
      simp [Written.value, Written.digits, Written.places, Written.exponentValue]
    · exact value_exponential_le b s

end Layout

/-! ### Numbers of JSON -/

/-- A finite number is read as a finite one, in JSON. -/
lemma exists_finite_jsonWritten {bits : UInt64} (h : isFiniteBits bits = true) :
    ∃ bits' hb, (jsonWritten bits).real = .finite bits' hb := by
  refine (isProper_jsonWritten bits).1.exists_finite_real ?_
  have hone := Extended.one_le_slack
  refine (mul_le_mul_of_nonneg_right (Layout.value_written_le _ _) (by positivity)).trans ?_
  rw [max_mul_of_nonneg _ _ (by positivity)]
  refine max_le ?_ ?_
  · split
    · rw [Scientific.value]
      simpa using RealNumber.largest.value_nonneg
    · exact value_shortest_le h
  · refine le_trans ?_ Written.largest_bounds.1.le
    calc (10 : ℚ) * slack ^ 43 ≤ 10 * (1 + 1 / 2 ^ 58) :=
          mul_le_mul_of_nonneg_left slack_pow_le (by norm_num)
      _ ≤ 2 ^ 65 := by norm_num

/-- An integer of JSON is read as a finite number. -/
lemma exists_finite_ofInt {n : ℤ} (h : Json.IsExact n) :
    ∃ bits hb, (Written.ofInt n).real = .finite bits hb := by
  refine (Written.isProper_ofInt n).exists_finite_real ?_
  have hvalue : (Written.ofInt n).value = n.natAbs := by
    simp [Written.value, Written.digits, Written.places, Written.exponentValue, Written.ofInt]
  have hle : (n.natAbs : ℚ) ≤ 2 ^ 64 := by
    have hnat : n.natAbs ≤ 2 ^ 64 := by
      obtain ⟨hlow, hhigh⟩ := h
      omega
    exact_mod_cast hnat
  rw [hvalue]
  refine le_trans ?_ Written.largest_bounds.1.le
  have hone := Extended.one_le_slack
  calc (n.natAbs : ℚ) * slack ^ 43 ≤ 2 ^ 64 * (1 + 1 / 2 ^ 58) :=
        mul_le_mul hle slack_pow_le (by positivity) (by norm_num)
    _ ≤ 2 ^ 65 := by norm_num

theorem exists_finite_real (n : Json.Number) : ∃ bits hb, n.written.real = .finite bits hb := by
  cases n with
  | int n hn => exact exists_finite_ofInt hn
  | float bits hb => exact exists_finite_jsonWritten hb

end LeasedStore.Decimal
