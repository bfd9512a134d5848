/-
Strings and integers, written and read again.

* `readString_quoted`: a string that was written between quotes is read as it was;
* `NumberText.Ends`: texts that do not go on with a number;
* `NumberText.read_ofInt`, `NumberText.value_ofInt`: the numeral of an integer is read up to its
  end, and its value is the integer.
-/
import Mathlib.Tactic.Common
import LeasedStore.Json.StringText
import LeasedStore.Json.NumberText

namespace LeasedStore.Json

/-! ### Strings -/

lemma hexWord?_hexDigit {n : Nat} (h : n < 0x20) :
    hexWord? '0' '0' (hexDigit (n / 16)) (hexDigit (n % 16)) = some n := by
  have hall : ∀ n < 0x20, hexWord? '0' '0' (hexDigit (n / 16)) (hexDigit (n % 16)) = some n := by
    decide
  exact hall n h

/-- How a character stands inside a quoted string. -/
inductive IsEscaped (c : Char) : List Char → Prop where
  | letter (l : Char) (h : escapedChar? l = some c)
      (hl : l ∈ ['"', '\\', 'b', 'f', 'n', 'r', 't']) : IsEscaped c ['\\', l]
  | control (h : c.toNat < 0x20) :
      IsEscaped c ['\\', 'u', '0', '0', hexDigit (c.toNat / 16), hexDigit (c.toNat % 16)]
  | plain (hquote : c ≠ '"') (hbackslash : c ≠ '\\') (hcontrol : 0x20 ≤ c.toNat) :
      IsEscaped c [c]

/-- Every character is escaped in one of three ways. -/
lemma isEscaped_escapeChar (c : Char) : IsEscaped c (escapeChar c) := by
  rw [escapeChar]
  split
  · next h => exact .letter '"' (by rw [h]; rfl) (by decide)
  split
  · next h => exact .letter '\\' (by rw [h]; rfl) (by decide)
  split
  · next h => exact .letter 'b' (by rw [h]; rfl) (by decide)
  split
  · next h => exact .letter 'f' (by rw [h]; rfl) (by decide)
  split
  · next h => exact .letter 'n' (by rw [h]; rfl) (by decide)
  split
  · next h => exact .letter 'r' (by rw [h]; rfl) (by decide)
  split
  · next h => exact .letter 't' (by rw [h]; rfl) (by decide)
  split
  · next h => exact .control h
  · next hquote hbackslash _ _ _ _ _ hcontrol => exact .plain hquote hbackslash (by omega)

/-- A character that was escaped is read as it was. -/
lemma readString_escapeChar (c : Char) (rest : List Char) :
    readString (escapeChar c ++ rest) = consChar c (readString rest) := by
  have hesc := isEscaped_escapeChar c
  generalize escapeChar c = cs at hesc
  cases hesc with
  | letter l h hl =>
      simp only [List.cons_append, List.nil_append]
      rw [readString]
      · rw [h]
      · rintro _ _ _ _ _ rfl
        exact absurd hl (by decide)
      · rintro rfl
        exact absurd hl (by decide)
  | control h =>
      -- what is escaped by its number is a control character, and so no half of a pair
      have hhigh : isHighSurrogate c.toNat = false := by
        simp only [isHighSurrogate, Bool.and_eq_false_imp, decide_eq_true_eq]
        omega
      have hlow : isLowSurrogate c.toNat = false := by
        simp only [isLowSurrogate, Bool.and_eq_false_imp, decide_eq_true_eq]
        omega
      simp only [List.cons_append, List.nil_append]
      rw [readString, hexWord?_hexDigit h]
      simp only [hlow, hhigh, Bool.false_eq_true, if_false]
      rw [Char.ofNat_toNat]
  | plain hquote hbackslash hcontrol =>
      rw [List.singleton_append, readString]
      · rw [if_neg (by omega)]
      · exact hquote
      · exact hbackslash

/-- Characters that were escaped are read as they were, up to the quote behind them. -/
lemma readString_escaped (cs rest : List Char) :
    readString (cs.flatMap escapeChar ++ '"' :: rest) = .ok (cs, rest) := by
  induction cs with
  | nil => rw [List.flatMap_nil, List.nil_append, readString]
  | cons c cs ih =>
      rw [List.flatMap_cons, List.append_assoc, readString_escapeChar, ih]
      rfl

lemma readString_quoted (s : String) (rest : List Char) :
    ∃ body, quoted s ++ rest = '"' :: body ∧ readString body = .ok (s.toList, rest) := by
  refine ⟨s.toList.flatMap escapeChar ++ '"' :: rest, ?_, readString_escaped _ _⟩
  rw [quoted, List.cons_append, List.append_assoc, List.singleton_append]

/-! ### Numerals -/

namespace NumberText

/-- Does a text not go on with a number? -/
def Ends (s : List Char) : Prop :=
  ∀ c ∈ s.head?, c.isDigit = false ∧ c ≠ '.' ∧ c ≠ 'e' ∧ c ≠ 'E'

lemma ends_nil : Ends [] := fun c hc => by cases hc

lemma ends_cons {c : Char} {s : List Char}
    (h : c.isDigit = false ∧ c ≠ '.' ∧ c ≠ 'e' ∧ c ≠ 'E') : Ends (c :: s) := by
  intro d hd
  cases hd
  exact h

/-- Digits are taken up to what is no digit. -/
lemma takeWhile_digits_append {ds rest : List Char} (hd : ∀ c ∈ ds, c.isDigit = true)
    (hr : ∀ c ∈ rest.head?, c.isDigit = false) :
    (ds ++ rest).takeWhile Char.isDigit = ds ∧ (ds ++ rest).dropWhile Char.isDigit = rest := by
  have hnone : rest.takeWhile Char.isDigit = [] ∧ rest.dropWhile Char.isDigit = rest := by
    cases rest with
    | nil => exact ⟨rfl, rfl⟩
    | cons c s => simp [hr c rfl]
  rw [List.takeWhile_append_of_pos hd, List.dropWhile_append_of_pos hd, hnone.1, hnone.2,
    List.append_nil]
  exact ⟨rfl, rfl⟩

variable {rest : List Char}

lemma spanDigits_append {ds : List Char} (hd : ∀ c ∈ ds, c.isDigit = true) (hr : Ends rest) :
    spanDigits (ds ++ rest) = (ds, rest) :=
  Prod.ext_iff.mpr (takeWhile_digits_append hd fun c hc => (hr c hc).1)

/-- The first digit of a numeral is a zero for zero alone. -/
lemma exists_toDigits_eq_cons {n : Nat} (hn : n ≠ 0) :
    ∃ c ds, Nat.toDigits 10 n = c :: ds ∧ c ≠ '0' ∧ c.isDigit = true := by
  induction n using Nat.strongRecOn with
  | ind n ih =>
      by_cases hlt : n < 10
      · refine ⟨n.digitChar, [], Nat.toDigits_of_lt_base hlt, by simpa using hn, ?_⟩
        simpa [Nat.isDigit_digitChar] using hlt
      · obtain ⟨c, ds, heq, hc⟩ := ih (n / 10) (by omega) (by omega)
        refine ⟨c, ds ++ Nat.toDigits 10 (n % 10), ?_, hc⟩
        rw [Nat.toDigits_of_base_le (by decide) (by omega), heq]
        simp [Nat.toDigits_of_lt_base (Nat.mod_lt n (by decide : 0 < 10))]

/-- The digits of a numeral are read up to its end. -/
lemma readWhole_toDigits (n : Nat) (hr : Ends rest) :
    readWhole (Nat.toDigits 10 n ++ rest) = .ok (Nat.toDigits 10 n, rest) := by
  have hdigits : ∀ c ∈ Nat.toDigits 10 n, c.isDigit = true := fun c hc =>
    Nat.isDigit_of_mem_toDigits (by decide) (by decide) hc
  by_cases hn : n = 0
  · subst hn
    rw [Nat.toDigits_zero, List.singleton_append]
    cases rest with
    | nil => rfl
    | cons c s =>
        have hc : c.isDigit = false := (hr c rfl).1
        simp [readWhole, hc]
  · obtain ⟨c, ds, heq, hc, hd⟩ := exists_toDigits_eq_cons hn
    have hspan := spanDigits_append hdigits hr
    rw [heq, List.cons_append] at hspan ⊢
    rw [readWhole, if_pos hd, hspan]
    exact fun h => hc h

/-- Where no number goes on there is no fraction. -/
lemma readFraction_of_ends (hr : Ends rest) : readFraction rest = .ok ([], rest) := by
  cases rest with
  | nil => rfl
  | cons c s =>
      rw [readFraction]
      exact fun r h => (hr c rfl).2.1 (List.cons.inj h).1

/-- Where no number goes on there is no exponent. -/
lemma readExponent_of_ends (hr : Ends rest) : readExponent rest = .ok (none, rest) := by
  cases rest with
  | nil => rfl
  | cons c s =>
      have hc := hr c rfl
      simp only [readExponent]
      rw [if_neg (by simp [hc.2.2.1, hc.2.2.2])]

/-- The numeral of an integer as it is read. -/
def ofInt (n : Int) : NumberText := ⟨decide (n < 0), Nat.toDigits 10 n.natAbs, [], none⟩

/-- The characters of the numeral of an integer. -/
lemma toList_ofInt (n : Int) :
    (Numeral.ofInt n).toList =
      if n < 0 then '-' :: Nat.toDigits 10 n.natAbs else Nat.toDigits 10 n.natAbs := by
  cases n with
  | ofNat n => simp [Numeral.ofInt, Numeral.ofNat]
  | negSucc n => simp [Numeral.ofInt, Numeral.ofNat, Int.negSucc_lt_zero]

/-- The numeral of an integer is read up to its end. -/
lemma read_ofInt (n : Int) (hr : Ends rest) :
    read ((Numeral.ofInt n).toList ++ rest) = .ok (ofInt n, rest) := by
  have hwhole := readWhole_toDigits n.natAbs hr
  rw [toList_ofInt]
  split
  · next hneg =>
    rw [List.cons_append, read, ofInt, decide_eq_true hneg]
    simp only [hwhole, bind, Except.bind, readFraction_of_ends hr, readExponent_of_ends hr]
    rfl
  · next hneg =>
    -- a numeral without a sign starts with a digit
    have hsign : ∀ r, Nat.toDigits 10 n.natAbs ++ rest ≠ '-' :: r := by
      intro r heq
      have hfirst : (Nat.toDigits 10 n.natAbs ++ rest).head? = some '-' := by rw [heq]; rfl
      cases hds : Nat.toDigits 10 n.natAbs with
      | nil => exact Nat.toDigits_ne_nil hds
      | cons c ds =>
          rw [hds] at hfirst
          have hc : c.isDigit = true := Nat.isDigit_of_mem_toDigits (by decide) (by decide)
            (hds ▸ List.mem_cons_self ..)
          cases hfirst
          exact absurd hc (by decide)
    rw [read, ofInt, decide_eq_false hneg]
    · simp only [hwhole, bind, Except.bind, readFraction_of_ends hr, readExponent_of_ends hr]
      rfl
    · exact hsign

lemma le_ofDigitChars (ds : List Char) (s : Nat) : s ≤ Nat.ofDigitChars 10 ds s := by
  rw [Nat.ofDigitChars_eq_ofDigitChars_zero]
  have hpos : 1 ≤ 10 ^ ds.length := Nat.one_le_pow _ _ (by decide)
  have hmul : 1 * s ≤ 10 ^ ds.length * s := Nat.mul_le_mul_right s hpos
  omega

/-- All digits are accumulated where their value fits a word. -/
lemma accumulate_of_le {ds : List Char} {s : Nat} (h : Nat.ofDigitChars 10 ds s ≤ maxWord) :
    accumulate s ds = (Nat.ofDigitChars 10 ds s, ds.length) := by
  induction ds generalizing s with
  | nil => rfl
  | cons c ds ih =>
      rw [Nat.ofDigitChars_cons, Nat.mul_comm] at h
      have hnext : s * 10 + (c.toNat - '0'.toNat) ≤ maxWord :=
        Nat.le_trans (le_ofDigitChars ds _) h
      rw [accumulate]
      dsimp only
      rw [if_pos hnext, ih h, Nat.ofDigitChars_cons, Nat.mul_comm 10 s]
      rfl

/-- An integer is its magnitude behind its sign. -/
lemma ite_natAbs (n : Int) :
    (if decide (n < 0) = true then -(n.natAbs : Int) else n.natAbs) = n := by
  by_cases hneg : n < 0
  · rw [if_pos (by simpa using hneg)]
    omega
  · rw [if_neg (by simpa using hneg)]
    omega

/-- The value of the numeral of an integer is the integer. -/
lemma value_ofInt {n : Int} (h : IsExact n) : (ofInt n).value = some (.int n h) := by
  have hle : Nat.ofDigitChars 10 (Nat.toDigits 10 n.natAbs) 0 ≤ maxWord := by
    rw [Nat.ofDigitChars_ten_toDigits]
    have hword : maxWord = 18446744073709551615 := rfl
    obtain ⟨hlow, hhigh⟩ := h
    omega
  have hacc := accumulate_of_le hle
  rw [Nat.ofDigitChars_ten_toDigits] at hacc
  have hsign : IsExact n ∧ ¬ (decide (n < 0) = true ∧ n.natAbs = 0) := by
    refine ⟨h, fun hzero => ?_⟩
    simp only [decide_eq_true_eq] at hzero
    omega
  simp only [value, ofInt, hacc, ite_natAbs]
  rw [if_pos (by simp), dif_pos hsign]

end NumberText

end LeasedStore.Json
