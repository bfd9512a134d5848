/-
The values of written numbers, and which of them are read as finite numbers.

A significand only takes as many digits as it has room for.  What it loses makes a number smaller,
so that no number is read as infinite that is not beyond the largest one by more than the slack of
the few products it takes.

* `Written.value`: the magnitude of a written number, as a fraction;
* `Written.IsProper.read_le`: the significand that is read, with its power of ten, is not beyond it;
* `Written.absorbed`: powers of ten move into the significand without a loss;
* `Written.IsProper.exists_finite_real`: numbers not beyond the largest are read as finite ones.
-/
import LeasedStore.Decimal.Written
import LeasedStore.Proofs.Decimal.Extended
import LeasedStore.Proofs.Decimal.Written

namespace LeasedStore.Decimal

namespace Written

open Extended (slack)

/-- The number of digits behind the point. -/
def places (w : Written) : ℕ := (w.fraction.getD []).length

/-- The digits on both sides of the point, as one number. -/
def digits (w : Written) : ℕ := Nat.ofDigitChars 10 (w.whole ++ w.fraction.getD []) 0

/-- The magnitude of a written number. -/
def value (w : Written) : ℚ := w.digits * 10 ^ (w.exponentValue - w.places)

/-! ### Significands -/

lemma appendDigit_eq (s : ℕ) (c : Char) : appendDigit s c = 10 * s + (c.toNat - '0'.toNat) := by
  rw [appendDigit, Nat.mul_comm]

lemma mul_le_ofDigitChars (ds : List Char) (n : ℕ) :
    n * 10 ^ ds.length ≤ Nat.ofDigitChars 10 ds n := by
  rw [Nat.ofDigitChars_eq_ofDigitChars_zero, Nat.mul_comm]
  exact Nat.le_add_right ..

/-- Digits behind a larger number make a larger number. -/
lemma ofDigitChars_mono (ds : List Char) {m n : ℕ} (h : m ≤ n) :
    Nat.ofDigitChars 10 ds m ≤ Nat.ofDigitChars 10 ds n := by
  calc Nat.ofDigitChars 10 ds m
      = 10 ^ ds.length * m + Nat.ofDigitChars 10 ds 0 := Nat.ofDigitChars_eq_ofDigitChars_zero
    _ ≤ 10 ^ ds.length * n + Nat.ofDigitChars 10 ds 0 :=
        Nat.add_le_add_right (Nat.mul_le_mul_left _ h) _
    _ = Nat.ofDigitChars 10 ds n := Nat.ofDigitChars_eq_ofDigitChars_zero.symm

/-- A significand that is not full takes one more digit. -/
lemma appendDigit_lt {s : ℕ} (hs : s < fullSignificand) {c : Char} (hc : c.isDigit = true) :
    appendDigit s c < 2 ^ 64 := by
  have hhigh : c.toNat ≤ 57 := (Char.isDigit_iff_toNat.mp hc).2
  have hzero : '0'.toNat = 48 := rfl
  have hfull : fullSignificand = 1844674407370955160 := rfl
  rw [appendDigit_eq, hzero]
  omega

/-- What is taken of a whole part is not beyond it, and digits are left over of a full significand
only. -/
lemma takeWhole_spec {ds : List Char} (hds : ∀ c ∈ ds, c.isDigit = true) {s : ℕ}
    (hs : s < fullSignificand) :
    (takeWhole s ds).1 * 10 ^ (takeWhole s ds).2 ≤ Nat.ofDigitChars 10 ds s ∧
      ((takeWhole s ds).2 = 0 ∨ fullSignificand ≤ (takeWhole s ds).1) ∧
      (takeWhole s ds).1 < 2 ^ 64 := by
  induction ds generalizing s with
  | nil => exact ⟨by simp [takeWhole], .inl rfl, Nat.lt_trans hs (by decide)⟩
  | cons c ds ih =>
      obtain ⟨hc, hds⟩ := List.forall_mem_cons.mp hds
      rw [takeWhole, Nat.ofDigitChars_cons, ← appendDigit_eq]
      split
      · next hfull => exact ⟨mul_le_ofDigitChars ds _, .inr hfull, appendDigit_lt hs hc⟩
      · next hroom => exact ih hds (Nat.not_le.mp hroom)

/-- What is taken of a fraction is not beyond it, and a full significand takes nothing. -/
lemma takeFraction_spec {ds : List Char} (hds : ∀ c ∈ ds, c.isDigit = true) {s : ℕ}
    (hs : s < 2 ^ 64) :
    (takeFraction s ds).1 * 10 ^ ds.length ≤
        Nat.ofDigitChars 10 ds s * 10 ^ (takeFraction s ds).2 ∧
      (fullSignificand ≤ s → takeFraction s ds = (s, 0)) ∧ (takeFraction s ds).1 < 2 ^ 64 := by
  induction ds generalizing s with
  | nil => exact ⟨by simp [takeFraction], fun _ => rfl, hs⟩
  | cons c ds ih =>
      obtain ⟨hc, hds⟩ := List.forall_mem_cons.mp hds
      rw [takeFraction]
      split
      · next hroom =>
        obtain ⟨hle, -, hlt⟩ := ih hds (appendDigit_lt hroom hc)
        rw [Nat.ofDigitChars_cons, ← appendDigit_eq]
        refine ⟨?_, fun hfull => absurd hroom (Nat.not_lt.mpr hfull), hlt⟩
        rw [List.length_cons, Nat.pow_succ, Nat.pow_succ, ← Nat.mul_assoc, ← Nat.mul_assoc]
        exact Nat.mul_le_mul_right 10 hle
      · exact ⟨by simpa using mul_le_ofDigitChars (c :: ds) s, fun _ => rfl, hs⟩

/-- The significand that is read. -/
def readSignificand (w : Written) : ℕ :=
  (takeFraction (takeWhole 0 w.whole).1 (w.fraction.getD [])).1

/-- The number of digits in front of the point that are left. -/
def skipped (w : Written) : ℕ := (takeWhole 0 w.whole).2

/-- The number of digits behind the point that are taken. -/
def takenPlaces (w : Written) : ℕ :=
  (takeFraction (takeWhole 0 w.whole).1 (w.fraction.getD [])).2

/-- The power of ten by which the significand is read. -/
def readExponent (w : Written) : ℤ := w.exponentValue + w.skipped - w.takenPlaces

variable {w : Written}

/-- The significand that is read is a word, and no more than the digits that it is read from. -/
lemma IsProper.readSignificand_le (h : w.IsProper) :
    w.readSignificand * 10 ^ w.skipped * 10 ^ w.places ≤ w.digits * 10 ^ w.takenPlaces ∧
      w.readSignificand < 2 ^ 64 := by
  have hfraction : ∀ c ∈ w.fraction.getD [], c.isDigit = true := by
    cases hf : w.fraction with
    | none => simp
    | some ds => exact (h.fraction ds hf).2
  obtain ⟨hwhole, hleft, hlt⟩ := takeWhole_spec h.whole.2 (s := 0) (by decide)
  obtain ⟨hle, hfull, hlt'⟩ := takeFraction_spec hfraction hlt
  refine ⟨?_, hlt'⟩
  rw [readSignificand, skipped, takenPlaces, digits, Nat.ofDigitChars_append, places]
  -- all digits of the whole part are taken, or a full significand takes none behind the point
  rcases hleft with hzero | hdone
  · rw [hzero, Nat.pow_zero, Nat.mul_one] at hwhole ⊢
    exact Nat.le_trans hle (Nat.mul_le_mul_right _ (ofDigitChars_mono _ hwhole))
  · rw [hfull hdone, Nat.pow_zero, Nat.mul_one]
    exact Nat.le_trans (Nat.mul_le_mul_right _ hwhole) (mul_le_ofDigitChars _ _)

/-- With its power of ten the significand that is read is not beyond the value. -/
lemma IsProper.read_le (h : w.IsProper) :
    (w.readSignificand : ℚ) * 10 ^ w.readExponent ≤ w.value := by
  have hle : (w.readSignificand * 10 ^ w.skipped * 10 ^ w.places : ℚ) ≤
      w.digits * 10 ^ w.takenPlaces := by exact_mod_cast h.readSignificand_le.1
  have hten : (10 : ℚ) ≠ 0 := by norm_num
  rw [value, readExponent, zpow_sub₀ hten, zpow_add₀ hten, zpow_sub₀ hten, zpow_natCast,
    zpow_natCast, zpow_natCast, ← mul_div_assoc, ← mul_div_assoc,
    div_le_div_iff₀ (by positivity) (by positivity)]
  calc (w.readSignificand : ℚ) * (10 ^ w.exponentValue * 10 ^ w.skipped) * 10 ^ w.places
      = w.readSignificand * 10 ^ w.skipped * 10 ^ w.places * 10 ^ w.exponentValue := by ring
    _ ≤ w.digits * 10 ^ w.takenPlaces * 10 ^ w.exponentValue :=
        mul_le_mul_of_nonneg_right hle (by positivity)
    _ = w.digits * 10 ^ w.exponentValue * 10 ^ w.takenPlaces := by ring

/-! ### Powers of ten in the significand -/

/-- Powers of ten move into the significand without a loss, as far as there is room. -/
lemma absorbed (fuel : ℕ) {s : ℕ} (hs : s < 2 ^ 64) (e : ℤ) :
    ((absorb fuel s e).1 : ℚ) * 10 ^ (absorb fuel s e).2 = s * 10 ^ e ∧
      (absorb fuel s e).1 < 2 ^ 64 := by
  have hten : (10 : ℚ) ≠ 0 := by norm_num
  induction fuel generalizing s e with
  | zero => exact ⟨rfl, hs⟩
  | succ fuel ih =>
      rw [absorb]
      -- a positive exponent moves into the significand, a negative one takes zeros out of it
      split
      · next hroom =>
        have hlimit : roomyLimit = 1844674407370954956 := rfl
        have hlt : s * 10 < 2 ^ 64 := by omega
        obtain ⟨heq, hlt⟩ := ih hlt (e - 1)
        refine ⟨heq.trans ?_, hlt⟩
        rw [zpow_sub_one₀ hten]
        push_cast
        field_simp
      · split
        · next hzero =>
          obtain ⟨heq, hlt⟩ := ih (Nat.lt_of_le_of_lt (Nat.div_le_self s 10) hs) (e + 1)
          refine ⟨heq.trans ?_, hlt⟩
          have hdiv : (s : ℚ) = (s / 10 : ℕ) * 10 := by
            exact_mod_cast (Nat.div_mul_cancel (Nat.dvd_of_mod_eq_zero hzero.2)).symm
          rw [zpow_add_one₀ hten, hdiv]
          ring
        · exact ⟨rfl, hs⟩

/-! ### Finite numbers -/

/-- The largest finite number is beyond all words and less than a power of ten. -/
lemma largest_bounds : 2 ^ 65 < RealNumber.largest.value ∧
    RealNumber.largest.value < 10 ^ 309 := by
  have hvalue : RealNumber.largest.value = ((9007199254740991 * 2 ^ 971 : ℕ) : ℚ) := by
    have htwo : (2 : ℚ) ^ (971 : ℤ) = 2 ^ 971 := zpow_natCast 2 971
    rw [RealNumber.largest, Extended.value, htwo, Nat.cast_mul, Nat.cast_pow,
      Nat.cast_ofNat (n := 2)]
  have hlow : 2 ^ 65 < 9007199254740991 * 2 ^ 971 := by decide +kernel
  have hhigh : 9007199254740991 * 2 ^ 971 < 10 ^ 309 := by decide +kernel
  rw [hvalue]
  exact ⟨by exact_mod_cast hlow, by exact_mod_cast hhigh⟩

/-- A word times a power of ten is read as a finite number, unless it is too close to the
largest. -/
lemma exists_finite_of_le (negative : Bool) {s : ℕ} (hpos : s ≠ 0) (hs : s < 2 ^ 64) {e : ℤ}
    (h : (s : ℚ) * 10 ^ e * slack ^ 43 ≤ RealNumber.largest.value) :
    ∃ bits hb, RealNumber.ofExtended negative
      (if e = 0 then ⟨s, 0⟩ else (Extended.ofNat s).timesTenTo e) = .finite bits hb := by
  have hone := Extended.one_le_slack
  refine RealNumber.exists_finite_ofExtended negative ?_
  have hword : (s : ℚ) * slack ≤ RealNumber.largest.value :=
    calc (s : ℚ) * slack ≤ 2 ^ 64 * 2 :=
          mul_le_mul (by exact_mod_cast hs.le) (by norm_num [slack]) (by positivity) (by norm_num)
      _ = 2 ^ 65 := by norm_num
      _ ≤ RealNumber.largest.value := largest_bounds.1.le
  split
  · have hle : (s : ℚ) ≤ s * slack := le_mul_of_one_le_right (Nat.cast_nonneg s) hone
    simpa [Extended.value] using hle.trans hword
  -- a quotient only becomes smaller; of a product it has to be shown that it takes few steps
  · rcases lt_or_ge e 0 with he | he
    · exact (Extended.value_timesTenTo_le_of_neg _ he).trans
        ((Extended.value_ofNat_le s).trans hword)
    · obtain ⟨n, rfl⟩ := Int.eq_ofNat_of_zero_le he
      rw [zpow_natCast] at h
      have hfew : n < 400 := by
        have hle : (10 : ℚ) ^ n ≤ s * 10 ^ n * slack ^ 43 := by
          have hs1 : (1 : ℚ) ≤ s := by exact_mod_cast Nat.one_le_iff_ne_zero.mpr hpos
          calc (10 : ℚ) ^ n ≤ s * 10 ^ n := le_mul_of_one_le_left (by positivity) hs1
            _ ≤ s * 10 ^ n * slack ^ 43 := le_mul_of_one_le_right (by positivity) (one_le_pow₀ hone)
        have hlt : (10 : ℚ) ^ n < 10 ^ 309 := (hle.trans h).trans_lt largest_bounds.2
        have hn : n < 309 := (pow_lt_pow_iff_right₀ (by norm_num)).mp hlt
        omega
      refine (Extended.value_timesTenTo_le _ hfew).trans (le_trans ?_ h)
      calc (Extended.ofNat s).value * 10 ^ n * slack ^ 42
          ≤ s * slack * 10 ^ n * slack ^ 42 := by
            refine mul_le_mul_of_nonneg_right (mul_le_mul_of_nonneg_right
              (Extended.value_ofNat_le s) (by positivity)) (by positivity)
        _ = s * 10 ^ n * slack ^ 43 := by ring

/-- A number that is not beyond the largest one, nor too close to it, is read as a finite number. -/
theorem IsProper.exists_finite_real (h : w.IsProper)
    (hvalue : w.value * slack ^ 43 ≤ RealNumber.largest.value) :
    ∃ bits hb, w.real = .finite bits hb := by
  have hreal : w.real = if w.readSignificand = 0 then .ofExtended w.negative ⟨0, 0⟩
      else .ofExtended w.negative
        (if (absorb 20 w.readSignificand w.readExponent).2 = 0
          then ⟨(absorb 20 w.readSignificand w.readExponent).1, 0⟩
          else (Extended.ofNat (absorb 20 w.readSignificand w.readExponent).1).timesTenTo
            (absorb 20 w.readSignificand w.readExponent).2) := rfl
  rw [hreal]
  split
  · refine RealNumber.exists_finite_ofExtended w.negative ?_
    rw [Extended.value]
    simpa using RealNumber.largest.value_nonneg
  · next hne =>
    obtain ⟨heq, hlt⟩ := absorbed 20 h.readSignificand_le.2 w.readExponent
    refine exists_finite_of_le w.negative ?_ hlt ?_
    · intro hzero
      rw [hzero, Nat.cast_zero, zero_mul] at heq
      have hpow : (10 : ℚ) ^ w.readExponent ≠ 0 := by positivity
      exact hne (by exact_mod_cast (mul_eq_zero.mp heq.symm).resolve_right hpow)
    · rw [heq]
      have hone := Extended.one_le_slack
      exact (mul_le_mul_of_nonneg_right h.read_le (by positivity)).trans hvalue

end Written

end LeasedStore.Decimal
