/-
Strings, booleans and integers as texts.

What a column of texts has of a member need not be the text that the member is in JSON: a boolean
becomes a digit, and an integer beyond the signed words becomes a real number of fifteen digits.

* `Json.literal?`: the text of a string, a boolean or an integer in JSON, without quotes;
* `Json.columnText?`: the text that a column of texts has of it;
* `Json.columnText?_of_literal?`: the two are the same for strings and signed words, and only there;
* `Json5.columnText_of_columnText?`: it is what the reader of paths takes over;
* `Json5.exists_columnText_ofJson`: nothing in a document is without a text, or null.
-/
import LeasedStore.Proofs.Decimal.Finite
import LeasedStore.Proofs.Json5.Member

namespace LeasedStore

open Decimal (Written RealNumber)

/-- The text of a real number is no numeral of an integer. -/
lemma Decimal.RealNumber.text_ne_ofInt (x : RealNumber) (n : Int) : x.text ≠ Numeral.ofInt n := by
  intro heq
  have hlist : x.text.toList = (Numeral.ofInt n).toList := congrArg String.toList heq
  cases x with
  | finite bits hb =>
      obtain ⟨w, hw, hreal, hchars⟩ := RealNumber.exists_text hb
      exact hreal.chars_ne_ofInt hw n (hchars.symm.trans hlist)
  | infinite negative =>
      have hdigits := (Decimal.isDigits_toDigits n.natAbs).2
      have hi : 'I' ∈ (Numeral.ofInt n).toList := by
        rw [← hlist]
        cases negative <;> decide
      rw [Json.NumberText.toList_ofInt] at hi
      have hmem : 'I' ∈ Nat.toDigits 10 n.natAbs := by
        split at hi
        · exact (List.mem_cons.mp hi).resolve_left (by decide)
        · exact hi
      exact absurd (hdigits 'I' hmem) (by decide)

namespace Json

/-- The text of a string, a boolean or an integer in JSON; that of a string is without its
quotes. -/
def literal? : Json → Option String
  | string s => some s
  | bool b => some (if b then "true" else "false")
  | number (.int n _) => some (Numeral.ofInt n)
  | _ => none

/-- The text of a string, a boolean or an integer in a column of texts. -/
def columnText? : Json → Option String
  | string s => some s
  | bool b => some (if b then "1" else "0")
  | number (.int n _) =>
    some (if Numeral.FitsInt64 n then Numeral.ofInt n else (Written.ofInt n).real.text)
  | _ => none

/-- A string, a boolean or an integer has a text in a column, which is that in JSON for strings and
signed words only. -/
theorem columnText?_of_literal? {j : Json} {u : String} (h : j.literal? = some u) :
    ∃ s, j.columnText? = some s ∧ (s = u ↔ j.IsScalar) := by
  cases j with
  | string s =>
      cases h
      exact ⟨_, rfl, iff_of_true rfl trivial⟩
  | bool b =>
      cases h
      exact ⟨_, rfl, iff_of_false (by cases b <;> decide) id⟩
  | number n =>
      cases n with
      | int n hn =>
          cases h
          refine ⟨_, rfl, ?_⟩
          rw [IsScalar]
          split
          · next hfits => exact iff_of_true rfl hfits
          · next hfits => exact iff_of_false (RealNumber.text_ne_ofInt _ n) hfits
      | float bits hb => cases h
  | null => cases h
  | array items => cases h
  | object members => cases h

end Json

namespace Json5

/-- The text of an integer beyond the signed words is that of a real number. -/
lemma Number.text?_ofInt_of_not_fits {n : Int} (h : ¬ Numeral.FitsInt64 n) :
    Number.text? (.decimal (Numeral.ofInt n).toList) = some (Written.ofInt n).real.text := by
  have hinteger : (Written.ofInt n).integer? = none := by
    rw [Written.integer?_ofInt, Numeral.fitInt64?, if_neg h]
  rw [← Written.chars_ofInt, Number.text?_chars (Written.isProper_ofInt n), hinteger]
  rfl

/-- The text of a number starts as a numeral. -/
lemma Number.exists_text?_chars (n : Json.Number) :
    ∃ s, Number.text? (.decimal n.chars) = some s ∧
      ∃ c cs, s.toList = c :: cs ∧ (c = '-' || c.isDigit) = true := by
  rw [n.chars_eq, Number.text?_chars n.isProper_written]
  refine ⟨_, rfl, ?_⟩
  cases n.written.integer? with
  | some i =>
      rw [Option.map_some, Option.getD_some, Numeral.ofInt64, ← Written.chars_ofInt]
      exact (Written.isProper_ofInt _).exists_chars_eq_cons
  | none =>
      obtain ⟨bits, hb, hreal⟩ := Decimal.exists_finite_real n
      obtain ⟨w, hw, -, hchars⟩ := RealNumber.exists_text hb
      rw [Option.map_none, Option.getD_none, hreal, hchars]
      exact hw.exists_chars_eq_cons

lemma columnText_string (s : String) :
    (ofJson (.string s)).columnText = .ok (some (Text.codes s.toList)) := by
  rw [ofJson, columnText, Quoted.ofString, Quoted.codes_ofChars]

/-- The text of a string, a boolean or an integer is what a column of texts takes over. -/
lemma columnText_of_columnText? {j : Json} {s : String} (h : j.columnText? = some s) :
    (ofJson j).columnText = .ok (some (Text.codes s.toList)) := by
  cases j with
  | string s =>
      cases h
      exact columnText_string s
  | bool b =>
      cases h
      cases b <;> rfl
  | number n =>
      cases n with
      | int n hn =>
          cases h
          rw [ofJson, columnText, Json.Number.chars]
          by_cases hfits : Numeral.FitsInt64 n
          · rw [Number.text?_ofInt hfits, if_pos hfits]
          · rw [Number.text?_ofInt_of_not_fits hfits, if_neg hfits]
      | float bits hb => cases h
  | null => cases h
  | array items => cases h
  | object members => cases h

/-- What is no string is taken over as nothing, or as a text that starts with no letter. -/
lemma columnText_of_not_string {j : Json} (h : ∀ s, j ≠ .string s) :
    (ofJson j).columnText = .ok none ∨ ∃ c cs, (ofJson j).columnText =
      .ok (some (Text.codes (c :: cs))) ∧ c.isAlpha = false := by
  cases j with
  | null => exact .inl rfl
  | bool b =>
      refine .inr ⟨if b then '1' else '0', [], rfl, ?_⟩
      cases b <;> rfl
  | number n =>
      obtain ⟨s, hs, c, cs, hcs, hc⟩ := Number.exists_text?_chars n
      refine .inr ⟨c, cs, ?_, of_numeral (fun c => c.isAlpha = false) (by decide) hc⟩
      rw [ofJson, columnText, hs, ← hcs]
  | string s => exact absurd rfl (h s)
  | array items => exact .inr ⟨'[', _, rfl, rfl⟩
  | object members => exact .inr ⟨'\x7b', _, rfl, rfl⟩

/-- Whatever is in a document of JSON is taken over by a column of texts, null as none. -/
lemma exists_columnText_ofJson (j : Json) : ∃ s, (ofJson j).columnText = .ok s := by
  by_cases h : ∃ s, j = .string s
  · obtain ⟨s, rfl⟩ := h
    exact ⟨_, columnText_string s⟩
  · rcases columnText_of_not_string (not_exists.mp h) with hnone | ⟨c, cs, hsome, -⟩
    · exact ⟨_, hnone⟩
    · exact ⟨_, hsome⟩

/-- A text that starts with a letter is taken over of a string only. -/
lemma columnText_eq_iff_of_letter {j : Json} {v : String}
    (hv : ∃ c ∈ v.toList.head?, c.isAlpha = true) :
    (ofJson j).columnText = .ok (some (Text.codes v.toList)) ↔ j = .string v := by
  constructor
  · intro heq
    by_cases h : ∃ s, j = .string s
    · obtain ⟨s, rfl⟩ := h
      rw [columnText_string] at heq
      rw [String.toList_inj.mp (Text.codes_injective (Option.some.inj (Except.ok.inj heq)))]
    · rcases columnText_of_not_string (not_exists.mp h) with hnone | ⟨c, cs, hsome, hc⟩
      · cases hnone.symm.trans heq
      · have hcodes := Option.some.inj (Except.ok.inj (hsome.symm.trans heq))
        rw [← Text.codes_injective hcodes] at hv
        obtain ⟨d, ⟨⟩, hd⟩ := hv
        cases hc.symm.trans hd
  · rintro rfl
    exact columnText_string v

end Json5

end LeasedStore
