/-
Numbers of JSON documents, as a reader of JSON5 sees them.

A number is only read up to its end if the text goes on with neither a word nor a number, as the
text of a document always does.  It is read as it is written, be it an integer or not.

* `Ends`: does a text go on with neither a word nor a number?
* `Number.read?_chars`: a number is read as it is written;
* `Json.Number.written`, `Json.Number.chars_eq`: the parts of a number of JSON.
-/
import LeasedStore.Json5.Document
import LeasedStore.Proofs.Decimal.Written
import Mathlib.Data.Bool.AllAny

namespace LeasedStore

open Decimal (Written IsDigits)
open Decimal.Written (fractionChars exponentChars)

namespace Json5

/-! ### Heads of texts -/

/-- A numeral starts with one of a few characters. -/
lemma mem_of_numeral {c : Char} (h : (c = '-' || c.isDigit) = true) :
    c ∈ "-0123456789".toList := by
  rw [Bool.or_eq_true, decide_eq_true_eq] at h
  rcases h with rfl | h
  · decide
  · have hall : ∀ n < 58, 48 ≤ n → Char.ofNat n ∈ "-0123456789".toList := by decide
    obtain ⟨hlow, hhigh⟩ : 48 ≤ c.toNat ∧ c.toNat ≤ 57 := Char.isDigit_iff_toNat.mp h
    rw [← Char.ofNat_toNat c]
    exact hall c.toNat (by omega) hlow

lemma of_numeral (p : Char → Prop) [DecidablePred p]
    (hall : ("-0123456789".toList.all fun c => p c) = true) {c : Char}
    (h : (c = '-' || c.isDigit) = true) : p c :=
  List.all_iff_forall_prop.mp hall c (mem_of_numeral h)

/-- Does a text go on with neither a word nor a number? -/
def Ends (s : List Char) : Prop := ∀ c ∈ s.head?, c.isAlphanum = false ∧ c ≠ '.'

lemma ends_cons {c : Char} {s : List Char} (h : c.isAlphanum = false ∧ c ≠ '.') :
    Ends (c :: s) := by
  intro d hd
  cases hd
  exact h

variable {rest : List Char}

/-- What goes on with no word and no number ends numbers. -/
lemma Ends.numberText (h : Ends rest) : Json.NumberText.Ends rest := by
  intro c hc
  obtain ⟨halpha, hpoint⟩ := h c hc
  rw [Char.isAlphanum, Bool.or_eq_false_iff] at halpha
  refine ⟨halpha.2, hpoint, ?_, ?_⟩
  · rintro rfl
    exact absurd halpha.1 (by decide)
  · rintro rfl
    exact absurd halpha.1 (by decide)

/-! ### Numbers -/

namespace Number

variable {w : Written}

/-- The digits of a number, with the point among them, are its mantissa. -/
lemma readMantissa?_chars (h : w.IsProper) (hr : Ends rest) :
    readMantissa? (w.whole ++ (fractionChars w.fraction ++ (exponentChars w.exponent ++ rest))) =
      some (w.whole ++ fractionChars w.fraction, exponentChars w.exponent ++ rest) := by
  have hhead := Written.head?_exponentChars w.exponent hr.numberText
  obtain ⟨htake, hdrop⟩ := Json.NumberText.takeWhile_digits_append h.whole.2
    (Written.head?_fractionChars w.fraction w.exponent hr.numberText)
  have hempty : w.whole.isEmpty = false := by simpa using h.whole.1
  rw [readMantissa?, htake, hdrop, hempty]
  cases hf : w.fraction with
  | none =>
      rw [fractionChars, List.nil_append, List.append_nil]
      dsimp only
      split
      · next heq => exact absurd rfl (hhead '.' (by rw [heq]; rfl)).2
      · rfl
  | some ds =>
      obtain ⟨htake', hdrop'⟩ := Json.NumberText.takeWhile_digits_append (h.fraction ds hf).2
        fun c hc => (hhead c hc).1
      simp [fractionChars, htake', hdrop']

/-- An exponent is read as it is written. -/
lemma readExponent?_exponentChars {e : Option (Bool × List Char)}
    (he : ∀ negative ds, e = some (negative, ds) → IsDigits ds) (hr : Ends rest) :
    readExponent? (exponentChars e ++ rest) = some (exponentChars e, rest) := by
  rcases e with _ | ⟨negative, ds⟩
  · cases rest with
    | nil => rfl
    | cons c s =>
        have hc := hr.numberText c rfl
        rw [exponentChars, List.nil_append, readExponent?, if_neg (by simp [hc.2.2.1, hc.2.2.2])]
  · have hds := he negative ds rfl
    obtain ⟨c, cs, rfl, hc⟩ := hds.exists_eq_cons
    obtain ⟨htake, hdrop⟩ := Json.NumberText.takeWhile_digits_append hds.2
      fun c hc => (hr.numberText c hc).1
    have hsign : (c = '+' || c = '-') = false :=
      of_numeral (fun c => c.isDigit = true → (c = '+' || c = '-') = false) (by decide)
        (by simp [hc]) hc
    rw [List.cons_append] at htake hdrop
    cases negative <;> simp [exponentChars, readExponent?, hsign, htake, hdrop]

/-- What ends a number makes it neither octal nor hexadecimal. -/
lemma not_radix_of_ends {c : Char} {s : List Char} (hr : Ends (c :: s)) :
    c.isDigit = false ∧ c ≠ 'x' ∧ c ≠ 'X' := by
  have hc := (hr c rfl).1
  refine ⟨(hr.numberText c rfl).1, ?_, ?_⟩
  · rintro rfl
    exact absurd hc (by decide)
  · rintro rfl
    exact absurd hc (by decide)

/-- What follows the digits of a number makes it neither octal nor hexadecimal. -/
lemma not_radix_of_parts {f : Option (List Char)} {e : Option (Bool × List Char)} {c : Char}
    {s : List Char} (hr : Ends rest) (h : fractionChars f ++ (exponentChars e ++ rest) = c :: s) :
    c.isDigit = false ∧ c ≠ 'x' ∧ c ≠ 'X' := by
  rcases f with _ | ds
  · rcases e with _ | ⟨negative, ds⟩
    · exact not_radix_of_ends ((show rest = c :: s from h) ▸ hr)
    · obtain rfl : 'e' = c := (List.cons.inj h).1
      decide
  · obtain rfl : '.' = c := (List.cons.inj h).1
    decide

/-- What stands behind the sign of a number is read as it is written. -/
lemma readMagnitude?_chars (h : w.IsProper) (hr : Ends rest) :
    readMagnitude? w.negative (w.magnitudeChars ++ rest) = some (.decimal w.chars, rest) := by
  -- behind a leading zero stands no digit and no mark of a radix
  have hradix {c : Char} {s : List Char} (heq : w.whole ++ (fractionChars w.fraction ++
      (exponentChars w.exponent ++ rest)) = '0' :: c :: s) :
      c.isDigit = false ∧ c ≠ 'x' ∧ c ≠ 'X' := by
    obtain ⟨d, ds, hds, -⟩ := h.whole.exists_eq_cons
    rw [hds, List.cons_append] at heq
    obtain ⟨hzero, hparts⟩ := List.cons.inj heq
    rw [h.leading ds (hzero ▸ hds), List.nil_append] at hparts
    exact not_radix_of_parts hr hparts
  unfold readMagnitude? Written.chars Written.magnitudeChars
  simp only [List.append_assoc, readMantissa?_chars h hr,
    readExponent?_exponentChars h.exponent hr, bind, Option.bind]
  split
  · next x d r heq =>
    obtain ⟨hdigit, hx, hX⟩ := hradix heq
    rw [if_neg (by simp [hx, hX]), if_neg (by simp [hdigit])]
    rfl
  · next d heq =>
    rw [if_neg (by simp [(hradix heq).1])]
    rfl
  · rfl

/-- No infinity starts with a character of a numeral. -/
lemma behindInfinity?_of_numeral {c : Char} (h : (c = '-' || c.isDigit) = true) (s : List Char) :
    behindInfinity? (c :: s) = none := by
  have hc := of_numeral (fun c => c.toLower ≠ 'i') (by decide) h
  have hi : behindWord? "inf".toList (c :: s) = none := if_neg hc
  rw [behindInfinity?, hi]
  rfl

/-- A number is read as it is written. -/
theorem read?_chars (h : w.IsProper) (hr : Ends rest) :
    read? (w.chars ++ rest) = some (.decimal w.chars, rest) := by
  have hmagnitude := readMagnitude?_chars h hr
  obtain ⟨c, cs, hcs, hc⟩ := h.whole.exists_eq_cons
  have hnumeral : (c = '-' || c.isDigit) = true := by simp [hc]
  have hfirst : ∃ s, w.magnitudeChars ++ rest = c :: s :=
    ⟨_, by rw [Written.magnitudeChars, hcs, List.cons_append, List.cons_append]⟩
  obtain ⟨s, hs⟩ := hfirst
  rw [hs] at hmagnitude
  cases hn : w.negative with
  | true =>
      have hchars : w.chars ++ rest = '-' :: c :: s := by
        rw [Written.chars, hn, if_pos rfl, List.singleton_append, List.cons_append, hs]
      rw [hchars, read?, if_pos (.inr rfl), behindInfinity?_of_numeral hnumeral]
      rw [hn] at hmagnitude
      exact hmagnitude
  | false =>
      -- a digit is no sign, so the number is read from its first character on
      have hsign := of_numeral (fun c => c.isDigit = true → ¬ (c = '+' ∨ c = '-')) (by decide)
        hnumeral hc
      have hchars : w.chars ++ rest = c :: s := by
        rw [Written.chars, hn, if_neg Bool.false_ne_true, List.nil_append, hs]
      rw [hchars, read?, if_neg hsign]
      rw [hn] at hmagnitude
      exact hmagnitude

end Number

end Json5

namespace Json.Number

/-- The parts of the text of a number. -/
def written : Json.Number → Written
  | int n _ => .ofInt n
  | float bits _ => Decimal.jsonWritten bits

lemma isProper_written (n : Json.Number) : n.written.IsProper := by
  cases n with
  | int n _ => exact Written.isProper_ofInt n
  | float bits _ => exact (Decimal.isProper_jsonWritten bits).1

lemma chars_eq (n : Json.Number) : n.chars = n.written.chars := by
  cases n with
  | int n _ => exact (Written.chars_ofInt n).symm
  | float bits _ => exact Decimal.toList_jsonText bits

end Json.Number

end LeasedStore
