/-
Decimal numbers as they are written.

The numerals of integers and the texts of real numbers, in either layout, are made of the same
parts: a sign, digits of which the first is no zero unless it is the only one, digits behind a
point, an exponent.  The parts are read again as they are written.

* `Written.chars`: the characters of the parts;
* `Written.IsProper`: do the parts make a number as JSON writes it?
* `Written.read?_chars`: the parts are read again;
* `Written.ofInt`: the numeral of an integer has no other parts than its digits;
* `Layout.written`, `Layout.toList_write`: the parts of a decimal under a layout, and its text;
* `Layout.isProper_written`: they have a fraction or an exponent;
* `jsonWritten`, `RealNumber.exists_text`: so have the texts of binary numbers, infinities aside.
-/
import LeasedStore.Decimal.Written
import LeasedStore.Proofs.Json.Scalars

namespace LeasedStore.Decimal

open Json (NumberText)

/-- Are some characters digits, and is there one of them? -/
def IsDigits (ds : List Char) : Prop := ds ≠ [] ∧ ∀ c ∈ ds, c.isDigit = true

lemma isDigits_toDigits (n : Nat) : IsDigits (Nat.toDigits 10 n) :=
  ⟨Nat.toDigits_ne_nil, fun _ hc => Nat.isDigit_of_mem_toDigits (by decide) (by decide) hc⟩

namespace IsDigits

variable {ds es : List Char}

lemma append_left (h : ∀ c ∈ ds, c.isDigit = true) (hes : IsDigits es) : IsDigits (ds ++ es) :=
  ⟨fun hnil => hes.1 (List.append_eq_nil_iff.mp hnil).2,
    List.forall_mem_append.mpr ⟨h, hes.2⟩⟩

lemma append_right (hds : IsDigits ds) (h : ∀ c ∈ es, c.isDigit = true) : IsDigits (ds ++ es) :=
  ⟨fun hnil => hds.1 (List.append_eq_nil_iff.mp hnil).1,
    List.forall_mem_append.mpr ⟨hds.2, h⟩⟩

lemma isDigit_of_mem_zeros {n : Nat} : ∀ c ∈ List.replicate n '0', c.isDigit = true :=
    fun c hc => by
  rw [List.eq_of_mem_replicate hc]
  rfl

lemma zero : IsDigits ['0'] := ⟨List.cons_ne_nil _ _, isDigit_of_mem_zeros (n := 1)⟩

lemma exists_eq_cons (h : IsDigits ds) : ∃ c cs, ds = c :: cs ∧ c.isDigit = true := by
  cases ds with
  | nil => exact absurd rfl h.1
  | cons c cs => exact ⟨c, cs, rfl, h.2 c (List.mem_cons_self ..)⟩

end IsDigits

/-! ### Parts and their characters -/

namespace Written

/-- The characters of a fraction, behind its point. -/
def fractionChars : Option (List Char) → List Char
  | none => []
  | some ds => '.' :: ds

/-- The characters of an exponent, with its sign. -/
def exponentChars : Option (Bool × List Char) → List Char
  | none => []
  | some (negative, ds) => 'e' :: (if negative then '-' else '+') :: ds

/-- The characters behind the sign. -/
def magnitudeChars (w : Written) : List Char :=
  w.whole ++ (fractionChars w.fraction ++ exponentChars w.exponent)

/-- The characters of a written number. -/
def chars (w : Written) : List Char := (if w.negative then ['-'] else []) ++ w.magnitudeChars

/-- Do the parts make a number as JSON writes it? -/
structure IsProper (w : Written) : Prop where
  whole : IsDigits w.whole
  /-- A zero in front stands alone. -/
  leading : ∀ cs, w.whole = '0' :: cs → cs = []
  fraction : ∀ ds, w.fraction = some ds → IsDigits ds
  exponent : ∀ negative ds, w.exponent = some (negative, ds) → IsDigits ds

variable {w : Written} {rest : List Char}

/-- An exponent, and what stands behind a number, start with neither a digit nor a point. -/
lemma head?_exponentChars (e : Option (Bool × List Char)) (hr : NumberText.Ends rest) :
    ∀ c ∈ (exponentChars e ++ rest).head?, c.isDigit = false ∧ c ≠ '.' := by
  rcases e with _ | ⟨negative, ds⟩
  · exact fun c hc => ⟨(hr c hc).1, (hr c hc).2.1⟩
  · rintro c ⟨⟩
    decide

/-- What stands behind the whole part starts with no digit. -/
lemma head?_fractionChars (f : Option (List Char)) (e : Option (Bool × List Char))
    (hr : NumberText.Ends rest) :
    ∀ c ∈ (fractionChars f ++ (exponentChars e ++ rest)).head?, c.isDigit = false := by
  cases f with
  | none => exact fun c hc => (head?_exponentChars e hr c hc).1
  | some ds =>
      rintro c ⟨⟩
      rfl

/-- The characters of a number start with a sign or a digit. -/
lemma IsProper.exists_chars_eq_cons (h : w.IsProper) :
    ∃ c cs, w.chars = c :: cs ∧ (c = '-' || c.isDigit) = true := by
  obtain ⟨c, cs, hcs, hc⟩ := h.whole.exists_eq_cons
  rw [chars, magnitudeChars, hcs]
  cases w.negative with
  | true => exact ⟨'-', _, rfl, rfl⟩
  | false => exact ⟨c, _, rfl, by simp [hc]⟩

/-- The characters of a number are signs, digits, points and small letters. -/
lemma IsProper.le_of_mem_chars (h : w.IsProper) : ∀ c ∈ w.chars, 0x20 ≤ c.toNat := by
  have hdigits {ds : List Char} (hds : IsDigits ds) : ∀ c ∈ ds, 0x20 ≤ c.toNat := fun c hc => by
    have hlow : 48 ≤ c.toNat := (Char.isDigit_iff_toNat.mp (hds.2 c hc)).1
    omega
  rw [chars, magnitudeChars]
  simp only [List.forall_mem_append]
  refine ⟨?_, hdigits h.whole, ?_, ?_⟩
  · split <;> simp
  · cases hf : w.fraction with
    | none => simp [fractionChars]
    | some ds => exact List.forall_mem_cons.mpr ⟨by decide, hdigits (h.fraction ds hf)⟩
  · cases he : w.exponent with
    | none => simp [exponentChars]
    | some e =>
        obtain ⟨negative, ds⟩ := e
        refine List.forall_mem_cons.mpr ⟨by decide, List.forall_mem_cons.mpr ⟨?_,
          hdigits (h.exponent negative ds he)⟩⟩
        split <;> decide

/-! ### Reading the parts -/

lemma spanDigits_append {ds : List Char} (hds : ∀ c ∈ ds, c.isDigit = true)
    (hr : ∀ c ∈ rest.head?, c.isDigit = false) : spanDigits (ds ++ rest) = (ds, rest) :=
  Prod.ext_iff.mpr (NumberText.takeWhile_digits_append hds hr)

/-- A fraction is read up to what has neither a digit nor a point in front. -/
lemma readFraction_append {f : Option (List Char)}
    (hf : ∀ ds ∈ f, ∀ c ∈ ds, c.isDigit = true)
    (hr : ∀ c ∈ rest.head?, c.isDigit = false ∧ c ≠ '.') :
    readFraction (fractionChars f ++ rest) = (f, rest) := by
  cases f with
  | none =>
      rw [fractionChars, List.nil_append, readFraction]
      rintro r rfl
      exact (hr '.' rfl).2 rfl
  | some ds =>
      have hspan := spanDigits_append (hf ds rfl) fun c hc => (hr c hc).1
      rw [fractionChars, List.cons_append, readFraction, hspan]

/-- An exponent is read as it is written. -/
lemma readExponent?_exponentChars {e : Option (Bool × List Char)}
    (he : ∀ negative ds, e = some (negative, ds) → IsDigits ds) :
    readExponent? (exponentChars e) = some (e, []) := by
  rcases e with _ | ⟨negative, ds⟩
  · rfl
  · have hds := he negative ds rfl
    have hspan : spanDigits ds = (ds, []) := by
      have hend : ∀ c ∈ ([] : List Char).head?, c.isDigit = false := by simp
      have hspan := spanDigits_append hds.2 hend
      rwa [List.append_nil] at hspan
    have hempty : ds.isEmpty = false := by simpa using hds.1
    cases negative <;> simp [exponentChars, readExponent?, readSign, hspan, hempty]

/-- A sign is read as it is written. -/
lemma IsProper.readSign_chars (h : w.IsProper) :
    readSign w.chars = (w.negative, w.magnitudeChars) := by
  obtain ⟨c, cs, hcs, hc⟩ := h.whole.exists_eq_cons
  rw [chars]
  cases w.negative with
  | true => rfl
  | false =>
      rw [magnitudeChars, hcs]
      simp only [Bool.false_eq_true, if_false, List.nil_append, List.cons_append]
      rw [readSign]
      · rintro r hr
        exact absurd ((List.cons.inj hr).1 ▸ hc) (by decide)
      · rintro r hr
        exact absurd ((List.cons.inj hr).1 ▸ hc) (by decide)

/-- The parts of a number are read again. -/
theorem IsProper.read?_chars (h : w.IsProper) : read? w.chars = some w := by
  -- a number starts with a sign or a digit, and neither is a blank
  have hblank : w.chars.dropWhile isBlank = w.chars := by
    obtain ⟨c, cs, hcs, hc⟩ := h.exists_chars_eq_cons
    have hnone : ¬ isBlank c = true := by
      have hne (d : Char) (hd : (d = '-' || d.isDigit) = false) : c ≠ d := fun heq => by
        rw [heq, hd] at hc
        cases hc
      rcases Bool.or_eq_true_iff.mp hc with hc | hc
      · rw [of_decide_eq_true hc]
        decide
      · have hlow : 48 ≤ c.toNat := (Char.isDigit_iff_toNat.mp hc).1
        simp only [isBlank, Bool.or_eq_true, Bool.and_eq_true, decide_eq_true_eq, not_or, not_and]
        exact ⟨hne ' ' rfl, fun _ hle => absurd (show c.toNat ≤ 13 from hle) (by omega)⟩
    rw [hcs, List.dropWhile_cons_of_neg hnone]
  have hhead := head?_fractionChars w.fraction w.exponent NumberText.ends_nil
  have hhead' := head?_exponentChars w.exponent NumberText.ends_nil
  rw [List.append_nil] at hhead hhead'
  have hspan := spanDigits_append h.whole.2 hhead
  have hfraction := readFraction_append (fun ds hds => (h.fraction ds hds).2) hhead'
  have hempty : ¬ (w.whole ++ w.fraction.getD []).isEmpty = true := by
    simp [h.whole.1]
  rw [read?, hblank, h.readSign_chars]
  simp only [magnitudeChars, hspan, hfraction,
    readExponent?_exponentChars h.exponent, bind, Option.bind]
  rw [if_pos ⟨rfl, hempty⟩]

/-! ### Numerals -/

/-- The numeral of an integer. -/
def ofInt (n : Int) : Written := ⟨decide (n < 0), Nat.toDigits 10 n.natAbs, none, none⟩

lemma isProper_ofInt (n : Int) : (ofInt n).IsProper where
  whole := isDigits_toDigits _
  leading cs hcs := by
    by_cases hn : n.natAbs = 0
    · rw [ofInt, hn, Nat.toDigits_zero] at hcs
      exact (List.cons.inj hcs).2.symm
    · obtain ⟨c, ds, hds, hc, -⟩ := NumberText.exists_toDigits_eq_cons hn
      rw [ofInt, hds] at hcs
      exact absurd (List.cons.inj hcs).1 hc
  fraction := nofun
  exponent := nofun

lemma chars_ofInt (n : Int) : (ofInt n).chars = (Numeral.ofInt n).toList := by
  rw [NumberText.toList_ofInt, chars, magnitudeChars, ofInt]
  by_cases hn : n < 0 <;> simp [hn, fractionChars, exponentChars]

lemma integer?_ofInt (n : Int) : (ofInt n).integer? = Numeral.fitInt64? n := by
  simp only [integer?, ofInt, Nat.ofDigitChars_ten_toDigits, NumberText.ite_natAbs]
  rw [if_pos (by simp)]

/-- Has a number a fraction or an exponent? -/
def IsReal (w : Written) : Prop := w.fraction ≠ none ∨ w.exponent ≠ none

/-- The numeral of an integer is no text of a number with a fraction or an exponent. -/
lemma IsReal.chars_ne_ofInt (h : w.IsReal) (hw : w.IsProper) (n : Int) :
    w.chars ≠ (Numeral.ofInt n).toList := by
  intro heq
  have hread := hw.read?_chars
  rw [heq, ← chars_ofInt, (isProper_ofInt n).read?_chars] at hread
  cases hread
  exact h.elim (fun h => h rfl) fun h => h rfl

end Written

/-! ### Layouts -/

namespace Layout

/-- The digits of a decimal in front of its point and behind it. -/
def positionalParts (s : Scientific) : List Char × List Char :=
  let ds := Nat.toDigits 10 s.digits
  if 0 ≤ s.exponent then (ds ++ List.replicate s.exponent.toNat '0', ['0'])
  else
    let places := (-s.exponent).toNat
    if places < ds.length then (ds.take (ds.length - places), ds.drop (ds.length - places))
    else (['0'], List.replicate (places - ds.length) '0' ++ ds)

/-- The digits of a decimal behind the first one, in front of an exponent. -/
def mantissaFraction (l : Layout) (s : Scientific) : Option (List Char) :=
  match Nat.toDigits 10 s.digits with
  | [] | [_] => if l.pointInMantissa then some ['0'] else none
  | _ :: rest => some rest

/-- The parts of a decimal behind its sign, under a layout. -/
def magnitude (l : Layout) (negative : Bool) (s : Scientific) : Written :=
  if s.digits = 0 then ⟨negative, ['0'], some ['0'], none⟩
  else
    let e := leadingExponent s
    if l.leastPositional ≤ e && e ≤ l.greatestPositional then
      ⟨negative, (positionalParts s).1, some (positionalParts s).2, none⟩
    else
      ⟨negative, (Nat.toDigits 10 s.digits).take 1, l.mantissaFraction s,
        some (decide (e < 0), (padded l.exponentDigits e.natAbs).toList)⟩

/-- The parts of a signed decimal under a layout. -/
def written (l : Layout) (negative : Bool) (s : Scientific) : Written :=
  l.magnitude (negative && (s.digits ≠ 0 || l.signedZero)) s

variable {l : Layout} {s : Scientific}

/-! #### Their characters -/

lemma toList_positional (s : Scientific) :
    (positional s).toList = (positionalParts s).1 ++ '.' :: (positionalParts s).2 := by
  rw [positional, positionalParts]
  split
  · simp
  · dsimp only
    split <;> simp

lemma toList_exponential (hl : l.plusInExponent = true) (s : Scientific) :
    (l.exponential s).toList = (Nat.toDigits 10 s.digits).take 1 ++
      (Written.fractionChars (l.mantissaFraction s) ++ Written.exponentChars
        (some (decide (leadingExponent s < 0),
          (padded l.exponentDigits (leadingExponent s).natAbs).toList))) := by
  have hexponent (mantissa : String) (cs : List Char) (h : mantissa.toList = cs) :
      (mantissa ++ "e" ++ (if leadingExponent s < 0 then "-"
        else if l.plusInExponent then "+" else "") ++
        padded l.exponentDigits (leadingExponent s).natAbs).toList =
        cs ++ Written.exponentChars (some (decide (leadingExponent s < 0),
            (padded l.exponentDigits (leadingExponent s).natAbs).toList)) := by
    by_cases he : leadingExponent s < 0 <;> simp [h, hl, he, Written.exponentChars]
  rw [← List.append_assoc]
  refine hexponent _ _ ?_
  rw [mantissaFraction]
  cases hds : Nat.toDigits 10 s.digits with
  | nil => exact absurd hds Nat.toDigits_ne_nil
  | cons d rest =>
      cases rest with
      | nil => cases l.pointInMantissa <;> simp [Written.fractionChars]
      | cons c cs => simp [Written.fractionChars]

/-- The text of a decimal under a layout is made of its parts. -/
theorem toList_write (hl : l.plusInExponent = true) (negative : Bool) (s : Scientific) :
    (l.write negative s).toList = (l.written negative s).chars := by
  have hsign (b : Bool) (t : String) (w : Written) (hw : w.negative = b)
      (ht : t.toList = w.magnitudeChars) :
      ((if b = true then "-" else "") ++ t).toList = w.chars := by
    rw [Written.chars, hw, String.toList_append, ht]
    cases b <;> rfl
  rw [write, written, magnitude]
  dsimp only
  by_cases hs : s.digits = 0
  · rw [if_pos hs, if_pos hs]
    exact hsign _ _ _ rfl rfl
  · rw [if_neg hs, if_neg hs]
    generalize (decide (l.leastPositional ≤ leadingExponent s) &&
      decide (leadingExponent s ≤ l.greatestPositional)) = isPositional
    cases isPositional with
    | true => exact hsign _ _ _ rfl ((toList_positional s).trans (by
        simp [Written.magnitudeChars, Written.fractionChars, Written.exponentChars]))
    | false => exact hsign _ _ _ rfl (toList_exponential hl s)

/-! #### Their digits -/

lemma isDigits_positionalParts (hs : s.digits ≠ 0) :
    IsDigits (positionalParts s).1 ∧ (∀ cs, (positionalParts s).1 = '0' :: cs → cs = []) ∧
      IsDigits (positionalParts s).2 := by
  have hdigits := isDigits_toDigits s.digits
  obtain ⟨d, rest, hd, hne, -⟩ := NumberText.exists_toDigits_eq_cons hs
  rw [positionalParts]
  split
  · refine ⟨hdigits.append_right IsDigits.isDigit_of_mem_zeros, ?_, IsDigits.zero⟩
    rintro cs hcs
    rw [hd] at hcs
    exact absurd (List.cons.inj hcs).1 hne
  · next hneg =>
    dsimp only
    -- there may be a digit in front of the point, or zeros behind it
    split
    · next hplaces =>
      obtain ⟨n, hn⟩ : ∃ n, (Nat.toDigits 10 s.digits).length - (-s.exponent).toNat = n + 1 :=
        ⟨(Nat.toDigits 10 s.digits).length - (-s.exponent).toNat - 1, by omega⟩
      have hshort : n + 1 < (Nat.toDigits 10 s.digits).length := by omega
      rw [hn]
      refine ⟨⟨?_, fun c hc => hdigits.2 c (List.mem_of_mem_take hc)⟩, ?_, ⟨?_, fun c hc =>
        hdigits.2 c (List.mem_of_mem_drop hc)⟩⟩
      · rw [hd, List.take_succ_cons]
        simp
      · rintro cs hcs
        rw [hd, List.take_succ_cons] at hcs
        exact absurd (List.cons.inj hcs).1 hne
      · simpa [List.drop_eq_nil_iff] using hshort
    · exact ⟨IsDigits.zero, fun cs hcs => (List.cons.inj hcs).2.symm,
        IsDigits.append_left IsDigits.isDigit_of_mem_zeros hdigits⟩

lemma isDigits_padded (width n : Nat) : IsDigits (padded width n).toList := by
  rw [padded, String.toList_append, String.toList_ofList]
  refine IsDigits.append_left IsDigits.isDigit_of_mem_zeros ?_
  rw [Nat.repr, String.toList_ofList]
  exact isDigits_toDigits n

lemma isDigits_mantissaFraction {ds : List Char} (h : l.mantissaFraction s = some ds) :
    IsDigits ds := by
  have hdigits := isDigits_toDigits s.digits
  rw [mantissaFraction] at h
  split at h
  · split at h <;> cases h
    exact IsDigits.zero
  · split at h <;> cases h
    exact IsDigits.zero
  · next hds =>
    cases h
    rw [hds] at hdigits
    refine ⟨?_, fun c hc => hdigits.2 c (List.mem_cons_of_mem _ hc)⟩
    rintro rfl
    simp_all

/-- The parts of a decimal make a number with a fraction or an exponent. -/
theorem isProper_written (l : Layout) (negative : Bool) (s : Scientific) :
    (l.written negative s).IsProper ∧ (l.written negative s).IsReal := by
  rw [written, magnitude]
  generalize (negative && (decide (s.digits ≠ 0) || l.signedZero)) = b
  split
  · refine ⟨⟨IsDigits.zero, fun cs hcs => (List.cons.inj hcs).2.symm, ?_, nofun⟩, .inl nofun⟩
    rintro ds ⟨⟩
    exact IsDigits.zero
  · next hs =>
    dsimp only
    -- with an exponent there may be no fraction, and without one there is
    split
    · obtain ⟨hwhole, hleading, hfraction⟩ := isDigits_positionalParts hs
      refine ⟨⟨hwhole, hleading, ?_, nofun⟩, .inl nofun⟩
      rintro ds ⟨⟩
      exact hfraction
    · obtain ⟨d, rest, hd, -, hdigit⟩ := NumberText.exists_toDigits_eq_cons hs
      refine ⟨⟨?_, ?_, fun ds hds => isDigits_mantissaFraction hds, ?_⟩, .inr nofun⟩
      · rw [hd]
        exact ⟨by simp, by simpa using hdigit⟩
      · rw [hd]
        exact fun cs hcs => (List.cons.inj hcs).2.symm
      · rintro _ _ ⟨⟩
        exact isDigits_padded _ _

end Layout

/-- The parts of the text of a binary number in JSON. -/
def jsonWritten (bits : UInt64) : Written :=
  let x := Binary64.ofBits bits
  Layout.json.written x.negative (if x.significand = 0 then ⟨0, 0⟩ else shortest x)

lemma isProper_jsonWritten (bits : UInt64) :
    (jsonWritten bits).IsProper ∧ (jsonWritten bits).IsReal := Layout.isProper_written ..

lemma toList_jsonText (bits : UInt64) : (jsonText bits).toList = (jsonWritten bits).chars :=
  Layout.toList_write rfl ..

lemma RealNumber.exists_text {bits : UInt64} (hb : isFiniteBits bits = true) :
    ∃ w : Written, w.IsProper ∧ w.IsReal ∧ (finite bits hb).text.toList = w.chars :=
  ⟨_, (Layout.isProper_written ..).1, (Layout.isProper_written ..).2, Layout.toList_write rfl ..⟩

end LeasedStore.Decimal
