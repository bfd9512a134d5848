/-
How texts are taken apart, and when they can be.

* `stripStart?_eq_some_iff`: a start that is stripped off was there;
* `splitOn_eq_iff`: the parts of a text are free of the character between them and make it up again;
* `Numeral.Denotes`, `Numeral.int64?_eq_some_iff`: the texts that can be read as signed words;
* `Numeral.uint32?_eq_some_iff`, `Numeral.uint64?_eq_some_iff`: those that can be read as unsigned
  words other than zero.
-/
import Mathlib.Tactic.Common
import LeasedStore.Sql.Mapping
import LeasedStore.Text.Numeral

namespace LeasedStore

/-! ### Starts -/

/-- A start that is stripped off was there. -/
lemma stripStart?_eq_some_iff {p s r : List Char} : stripStart? p s = some r ↔ s = p ++ r := by
  induction p generalizing s with
  | nil => simp [stripStart?]
  | cons c p ih =>
      cases s with
      | nil => simp [stripStart?]
      | cons d s =>
          rw [stripStart?, List.cons_append, List.cons.injEq]
          by_cases hc : c = d
          · rw [if_pos hc, ih]
            simp [hc]
          · rw [if_neg hc]
            simp [Ne.symm hc]

/-! ### Parts -/

section Parts

variable {c x : Char} {s part : List Char} {parts : List (List Char)}

/-- The parts of a text are those that the library gives. -/
lemma splitOn_eq_splitOn (c : Char) (s : List Char) : splitOn c s = s.splitOn c := by
  induction s with
  | nil => exact (List.splitOn_nil c).symm
  | cons d s ih =>
      rw [splitOn, List.splitOn_cons_eq_if_modifyHead, ih]
      by_cases hd : d = c
      · simp [hd]
      · rw [if_neg hd, if_neg (by simpa using hd)]
        cases hs : s.splitOn c with
        | nil => exact absurd hs (List.splitOn_ne_nil c s)
        | cons first rest => rfl

/-- The character between the parts is in none of them. -/
lemma not_mem_of_mem_splitOn (hp : part ∈ splitOn c s) : c ∉ part := by
  induction s generalizing part with
  | nil =>
      rw [splitOn, List.mem_singleton] at hp
      rw [hp]
      exact List.not_mem_nil
  | cons d s ih =>
      rw [splitOn] at hp
      split at hp
      · rcases List.mem_cons.mp hp with rfl | hp
        · exact List.not_mem_nil
        · exact ih hp
      · next hd =>
        split at hp
        · rw [List.mem_singleton] at hp
          rw [hp, List.mem_singleton]
          exact Ne.symm hd
        · next first rest heq =>
          rcases List.mem_cons.mp hp with rfl | hp
          · rw [List.mem_cons, not_or]
            exact ⟨Ne.symm hd, ih (heq ▸ List.mem_cons_self ..)⟩
          · exact ih (heq ▸ List.mem_cons_of_mem _ hp)

/-- The parts of a text are free of the character between them, and make the text up again. -/
theorem splitOn_eq_iff :
    splitOn c s = parts ↔ parts ≠ [] ∧ (∀ part ∈ parts, c ∉ part) ∧ s = [c].intercalate parts := by
  constructor
  · rintro rfl
    refine ⟨?_, fun part hp => not_mem_of_mem_splitOn hp, ?_⟩
    · rw [splitOn_eq_splitOn]
      exact List.splitOn_ne_nil c s
    · rw [splitOn_eq_splitOn, List.intercalate_splitOn]
  · rintro ⟨hne, hfree, rfl⟩
    rw [splitOn_eq_splitOn, List.splitOn_intercalate c hfree hne]

/-- The parts of a text have no other characters than the text. -/
lemma mem_of_mem_splitOn (hp : part ∈ splitOn c s) (hx : x ∈ part) : x ∈ s := by
  obtain ⟨-, -, hs⟩ := splitOn_eq_iff.mp (rfl : splitOn c s = _)
  obtain ⟨i, hi, rfl⟩ := List.getElem_of_mem hp
  have hi : 2 * i < (List.intersperse [c] (splitOn c s)).length := by
    rw [List.length_intersperse]
    omega
  rw [hs]
  refine List.mem_flatten.mpr ⟨_, List.getElem_mem hi, ?_⟩
  rwa [List.getElem_intersperse_two_mul]

end Parts

/-! ### Numerals -/

namespace Numeral

/-- Does a text stand for an integer?  It is digits, at least one of them, behind an optional
sign. -/
inductive Denotes : List Char → Int → Prop where
  | plain (ds : List Char) (hne : ds ≠ []) (hdigits : ∀ c ∈ ds, c.isDigit) :
      Denotes ds (Nat.ofDigitChars 10 ds 0)
  | plus (ds : List Char) (hne : ds ≠ []) (hdigits : ∀ c ∈ ds, c.isDigit) :
      Denotes ('+' :: ds) (Nat.ofDigitChars 10 ds 0)
  | minus (ds : List Char) (hne : ds ≠ []) (hdigits : ∀ c ∈ ds, c.isDigit) :
      Denotes ('-' :: ds) (-(Nat.ofDigitChars 10 ds 0 : Int))

/-- A run of digits. -/
lemma digits?_eq_some_iff {ds : List Char} {n : Nat} :
    digits? ds = some n ↔ (ds ≠ [] ∧ ∀ c ∈ ds, c.isDigit) ∧ Nat.ofDigitChars 10 ds 0 = n := by
  have hrun : (!ds.isEmpty && ds.all Char.isDigit) = true ↔ ds ≠ [] ∧ ∀ c ∈ ds, c.isDigit := by
    simp
  rw [digits?]
  by_cases h : ds ≠ [] ∧ ∀ c ∈ ds, c.isDigit
  · rw [if_pos (hrun.mpr h), Option.some.injEq, and_iff_right h]
  · rw [if_neg (fun h' => h (hrun.mp h'))]
    constructor
    · intro hn
      cases hn
    · intro hn
      exact absurd hn.1 h

/-- The texts that are read as integers. -/
lemma signed?_eq_some_iff {cs : List Char} {i : Int} : signed? cs = some i ↔ Denotes cs i := by
  constructor
  · intro h
    unfold signed? at h
    split at h <;> obtain ⟨_, hn, rfl⟩ := Option.map_eq_some_iff.mp h <;>
      obtain ⟨n, hn, hcast⟩ := Option.bind_eq_some_iff.mp hn <;>
      obtain ⟨⟨hne, hdigits⟩, rfl⟩ := digits?_eq_some_iff.mp hn <;> cases hcast
    · exact .minus _ hne hdigits
    · exact .plus _ hne hdigits
    · exact .plain _ hne hdigits
  · intro h
    cases h with
    | plain ds hne hdigits =>
        have hd := digits?_eq_some_iff.mpr ⟨⟨hne, hdigits⟩, rfl⟩
        unfold signed?
        split
        · exact absurd (hdigits '-' (List.mem_cons_self ..)) (by decide)
        · exact absurd (hdigits '+' (List.mem_cons_self ..)) (by decide)
        · rw [hd]
          rfl
    | plus ds hne hdigits =>
        rw [signed?, digits?_eq_some_iff.mpr ⟨⟨hne, hdigits⟩, rfl⟩]
        rfl
    | minus ds hne hdigits =>
        rw [signed?, digits?_eq_some_iff.mpr ⟨⟨hne, hdigits⟩, rfl⟩]
        rfl

lemma Denotes.unique {cs : List Char} {i j : Int} (hi : Denotes cs i) (hj : Denotes cs j) : i = j :=
  Option.some.inj ((signed?_eq_some_iff.mpr hi).symm.trans (signed?_eq_some_iff.mpr hj))

/-- The texts that are read as positive numbers where no minus sign is allowed. -/
lemma unsigned?_eq_some_iff {cs : List Char} {n : Nat} (hn : 0 < n) :
    unsigned? cs = some n ↔ Denotes cs n := by
  constructor
  · intro h
    unfold unsigned? at h
    split at h <;> obtain ⟨⟨hne, hdigits⟩, rfl⟩ := digits?_eq_some_iff.mp h
    · exact .plus _ hne hdigits
    · exact .plain _ hne hdigits
  · intro h
    generalize hi : (n : Int) = i at h
    cases h with
    | plain ds hne hdigits =>
        obtain rfl := Int.ofNat.inj hi
        unfold unsigned?
        split
        · exact absurd (hdigits '+' (List.mem_cons_self ..)) (by decide)
        · exact digits?_eq_some_iff.mpr ⟨⟨hne, hdigits⟩, rfl⟩
    | plus ds hne hdigits =>
        obtain rfl := Int.ofNat.inj hi
        exact digits?_eq_some_iff.mpr ⟨⟨hne, hdigits⟩, rfl⟩
    | minus ds hne hdigits => omega

/-- The numbers that fit an unsigned word. -/
lemma fitWord_eq_some_iff {α : Type} {size : Nat} {ofNat : Nat → α} {toNat : α → Nat}
    (hlt : ∀ a, toNat a < size) (hof : ∀ a, ofNat (toNat a) = a)
    (hto : ∀ k < size, toNat (ofNat k) = k) {k : Nat} {a : α} :
    (if k < size then some (ofNat k) else none) = some a ↔ k = toNat a := by
  constructor
  · intro h
    split at h
    · next hk =>
      cases h
      exact (hto k hk).symm
    · cases h
  · rintro rfl
    rw [if_pos (hlt a), hof]

/-- The texts that are read as positive unsigned words of 32 bits. -/
theorem uint32?_eq_some_iff {s : String} {n : UInt32} (hn : 0 < n) :
    uint32? s = some n ↔ Denotes s.toList n.toNat := by
  have hfits {k : Nat} : (if k < UInt32.size then some k.toUInt32 else none) = some n ↔
      k = n.toNat :=
    fitWord_eq_some_iff UInt32.toNat_lt_size (fun _ => UInt32.ofNat_toNat)
      fun _ hk => UInt32.toNat_ofNat_of_lt hk
  rw [← unsigned?_eq_some_iff (UInt32.lt_iff_toNat_lt.mp hn), uint32?]
  simp only [Option.bind_eq_some_iff, hfits, exists_eq_right]

/-- The texts that are read as positive unsigned words of 64 bits. -/
theorem uint64?_eq_some_iff {s : String} {n : UInt64} (hn : 0 < n) :
    uint64? s = some n ↔ Denotes s.toList n.toNat := by
  have hfits {k : Nat} : (if k < UInt64.size then some k.toUInt64 else none) = some n ↔
      k = n.toNat :=
    fitWord_eq_some_iff UInt64.toNat_lt_size (fun _ => UInt64.ofNat_toNat)
      fun _ hk => UInt64.toNat_ofNat_of_lt hk
  rw [← unsigned?_eq_some_iff (UInt64.lt_iff_toNat_lt.mp hn), uint64?]
  simp only [Option.bind_eq_some_iff, hfits, exists_eq_right]

/-- The integers that fit a word. -/
lemma fitInt64?_eq_some_iff {i : Int} {n : Int64} : fitInt64? i = some n ↔ i = n.toInt := by
  rw [fitInt64?]
  constructor
  · intro h
    split at h
    · next hfits =>
      cases h
      rw [Int64.toInt_ofInt, Int.bmod_eq_of_le]
      · exact hfits.1
      · exact hfits.2
    · cases h
  · rintro rfl
    have hfits : FitsInt64 n.toInt := ⟨n.le_toInt, n.toInt_lt⟩
    rw [if_pos hfits, Int64.ofInt_toInt]

/-- The texts that are read as signed words. -/
theorem int64?_eq_some_iff {s : String} {n : Int64} :
    int64? s = some n ↔ Denotes s.toList n.toInt := by
  rw [int64?, Option.bind_eq_some_iff]
  constructor
  · rintro ⟨i, hi, hn⟩
    rw [← fitInt64?_eq_some_iff.mp hn]
    exact signed?_eq_some_iff.mp hi
  · intro h
    exact ⟨n.toInt, signed?_eq_some_iff.mpr h, fitInt64?_eq_some_iff.mpr rfl⟩

lemma int64?_eq_none_iff {s : String} :
    int64? s = none ↔ ∀ n : Int64, ¬ Denotes s.toList n.toInt := by
  rw [Option.eq_none_iff_forall_ne_some]
  exact forall_congr' fun n => not_congr int64?_eq_some_iff

end Numeral

end LeasedStore
