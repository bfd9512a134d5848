/-
Words, strings and numbers of JSON, as a reader of JSON5 sees them.

Whatever a reader of JSON reads, JSON5 reads as well, and as far: there are more blanks, more
escapes and more numbers in JSON5, but none that would change how far a word, a string or a number
of JSON goes.  Nothing that is read has a NUL in it.

* `IsBehind`: is a text what is left of another one behind characters that are no NULs?
* `skipBlanks_of_json`: behind blanks stands what stands behind the blanks of JSON;
* `readsTo_of_readString`: a string is read up to its closing quote;
* `exists_read?_of_read`: a number is read as a decimal one.
-/
import LeasedStore.Proofs.Json5.Reading
import LeasedStore.Proofs.Results

namespace LeasedStore.Json5

variable {s t rest : List Char}

/-! ### What is left of a text -/

/-- Is a text what is left of another one behind characters that are no NULs? -/
def IsBehind (rest s : List Char) : Prop := ∃ read, s = read ++ rest ∧ '\x00' ∉ read

namespace IsBehind

lemma refl (s : List Char) : IsBehind s s := ⟨[], rfl, List.not_mem_nil⟩

lemma trans (h : IsBehind rest t) (ht : IsBehind t s) : IsBehind rest s := by
  obtain ⟨read, rfl, hnul⟩ := h
  obtain ⟨read', rfl, hnul'⟩ := ht
  refine ⟨read' ++ read, (List.append_assoc ..).symm, ?_⟩
  rw [List.mem_append]
  exact fun hmem => hmem.elim hnul' hnul

lemma append {read : List Char} (hnul : '\x00' ∉ read) (h : IsBehind rest s) :
    IsBehind rest (read ++ s) :=
  h.trans ⟨read, rfl, hnul⟩

lemma cons {c : Char} (hc : c ≠ '\x00') (h : IsBehind rest s) : IsBehind rest (c :: s) :=
  h.trans ⟨[c], rfl, by simpa using hc.symm⟩

lemma dropWhile {p : Char → Bool} (hp : p '\x00' = false) (s : List Char) :
    IsBehind (s.dropWhile p) s := by
  refine ⟨s.takeWhile p, List.takeWhile_append_dropWhile.symm, fun hmem => ?_⟩
  rw [List.mem_takeWhile_imp hmem] at hp
  cases hp

lemma length_le (h : IsBehind rest s) : rest.length ≤ s.length := by
  obtain ⟨read, rfl, -⟩ := h
  simp

end IsBehind

/-! ### Blanks -/

lemma of_isJsonBlank {c : Char} (h : Json.isJsonBlank c = true) :
    isBlank c = true ∧ c ≠ '/' ∧ c.isAlphanum = false ∧ c ≠ '.' := by
  simp only [Json.isJsonBlank, Bool.or_eq_true, decide_eq_true_eq] at h
  rcases h with ((rfl | rfl) | rfl) | rfl <;> decide

/-- The blanks of JSON are skipped. -/
lemma skipBlanks_skipBlanks (s : List Char) : skipBlanks (Json.skipBlanks s) = skipBlanks s := by
  induction s with
  | nil => rfl
  | cons c s ih =>
      by_cases hc : Json.isJsonBlank c = true
      · obtain ⟨hblank, hslash, -⟩ := of_isJsonBlank hc
        have hbehind : behindBlank? (c :: s) = some s := by
          rw [behindBlank?]
          · rw [if_pos hblank]
          · exact fun _ h _ => hslash h
          · exact fun _ h _ => hslash h
        rw [Json.skipBlanks, List.dropWhile_cons_of_pos hc]
        refine ih.trans ?_
        rw [skipBlanks, skipBlanks, List.length_cons, skipUpTo, hbehind]
      · rw [Json.skipBlanks, List.dropWhile_cons_of_neg hc]

lemma skipBlanks_of_json {c : Char} (h : Json.skipBlanks s = c :: t) (hblank : isBlank c = false)
    (hslash : c ≠ '/') : skipBlanks s = c :: t := by
  rw [← skipBlanks_skipBlanks, h]
  exact skipBlanks_cons hblank hslash t

lemma isBehind_skipBlanks (s : List Char) : IsBehind (Json.skipBlanks s) s := .dropWhile rfl s

/-- A text goes on with neither a word nor a number if it does not behind blanks. -/
lemma ends_of_skipBlanks (h : Ends (Json.skipBlanks s)) : Ends s := by
  cases s with
  | nil => exact h
  | cons c s =>
      by_cases hc : Json.isJsonBlank c = true
      · exact ends_cons (of_isJsonBlank hc).2.2
      · rwa [Json.skipBlanks, List.dropWhile_cons_of_neg hc] at h

/-! ### Words -/

/-- What stands behind a word stands behind its letters. -/
lemma eq_append_of_expectWord {word : List Char} (h : Json.expectWord word s = .ok rest) :
    s = word ++ rest := by
  induction word generalizing s with
  | nil =>
      cases h
      rfl
  | cons w word ih =>
      cases s with
      | nil => cases h
      | cons c s =>
          rw [Json.expectWord] at h
          split at h
          · next hc => rw [hc, ih h, List.cons_append]
          · cases h

/-! ### Strings -/

/-- Is the string at the head of a text read up to its closing quote, so that a text is left? -/
def ReadsTo (s rest : List Char) : Prop :=
  IsBehind rest s ∧ ∃ q, Quoted.read? '"' s = some (q, rest)

/-- More characters of a string in front. -/
lemma ReadsTo.prepend (style : Style) (raw : List Char)
    (hread : Quoted.read? '"' (raw ++ s) = Quoted.prepend style raw (Quoted.read? '"' s))
    (hnul : '\x00' ∉ raw) (h : ReadsTo s rest) : ReadsTo (raw ++ s) rest := by
  obtain ⟨hbehind, q, hq⟩ := h
  rw [hq] at hread
  exact ⟨hbehind.append hnul, _, hread⟩

/-- Four digits with a value are hexadecimal. -/
lemma all_isHexDigit {a b c d : Char} {n : Nat} (h : Json.hexWord? a b c d = some n) :
    [a, b, c, d].all isHexDigit = true := by
  obtain ⟨va, ha, h⟩ := Option.bind_eq_some_iff.mp h
  obtain ⟨vb, hb, h⟩ := Option.bind_eq_some_iff.mp h
  obtain ⟨vc, hc, h⟩ := Option.bind_eq_some_iff.mp h
  obtain ⟨vd, hd, -⟩ := Option.bind_eq_some_iff.mp h
  simp [isHexDigit, ha, hb, hc, hd]

/-- An escape by four hexadecimal digits is taken over. -/
lemma ReadsTo.hex {a b c d : Char} {n : Nat} (hword : Json.hexWord? a b c d = some n)
    (h : ReadsTo s rest) : ReadsTo ('\\' :: 'u' :: a :: b :: c :: d :: s) rest := by
  have hall := all_isHexDigit hword
  refine h.prepend .escaped ['\\', 'u', a, b, c, d] ?_ ?_
  · simp only [List.cons_append, List.nil_append]
    rw [Quoted.read?, if_pos hall]
  · intro hmem
    simp only [List.mem_cons, List.not_mem_nil, or_false] at hmem
    rcases hmem with h | h | hmem
    · exact absurd h (by decide)
    · exact absurd h (by decide)
    · have hdigit : isHexDigit '\x00' = true :=
        List.all_eq_true.mp hall '\x00' (by simpa using hmem)
      exact absurd hdigit (by decide)

/-- An escape by one letter is taken over. -/
lemma ReadsTo.letter {c e : Char} (hc : Json.escapedChar? c = some e) (h : ReadsTo s rest) :
    ReadsTo ('\\' :: c :: s) rest := by
  have hmem : c ∈ ['"', '\\', '/', 'b', 'f', 'n', 'r', 't'] := by
    unfold Json.escapedChar? at hc
    split at hc <;> first | decide | cases hc
  simp only [List.mem_cons, List.not_mem_nil, or_false] at hmem
  refine h.prepend .escaped ['\\', c] ?_ ?_
  · rcases hmem with rfl | rfl | rfl | rfl | rfl | rfl | rfl | rfl <;> rfl
  · rcases hmem with rfl | rfl | rfl | rfl | rfl | rfl | rfl | rfl <;> decide

/-- A character that stands for itself is taken over. -/
lemma ReadsTo.plain {c : Char} (hquote : c ≠ '"') (hbackslash : c ≠ '\\')
    (hcontrol : 0x20 ≤ c.toNat) (h : ReadsTo s rest) : ReadsTo (c :: s) rest := by
  have hnul : c ≠ '\x00' := by
    rintro rfl
    exact absurd hcontrol (by decide)
  refine h.prepend .plain [c] (Quoted.read?_plain hquote hbackslash hcontrol s) ?_
  simpa using hnul.symm

lemma exists_of_consChar {c : Char} {r : Except Json.Fault.Syntactic (List Char × List Char)}
    {cs : List Char} (h : Json.consChar c r = .ok (cs, rest)) : ∃ cs', r = .ok (cs', rest) := by
  obtain ⟨⟨cs', rest'⟩, hr, heq⟩ := Except.map_eq_ok.mp h
  cases heq
  exact ⟨cs', hr⟩

/-- A string of JSON is read up to its closing quote. -/
lemma readsTo_of_readString {cs : List Char} (h : Json.readString s = .ok (cs, rest)) :
    ReadsTo s rest := by
  fun_induction Json.readString s generalizing cs with
  | case2 =>
      cases h
      exact ⟨(IsBehind.refl _).cons (by decide), _, rfl⟩
  | case8 a b c d n hn _ _ a' b' c' d' r m hm _ ih =>
      obtain ⟨_, hr⟩ := exists_of_consChar h
      exact ((ih hr).hex hm).hex hn
  | case13 a b c d r n hn _ _ ih =>
      obtain ⟨_, hr⟩ := exists_of_consChar h
      exact (ih hr).hex hn
  | case15 c r _ _ e he ih =>
      obtain ⟨_, hr⟩ := exists_of_consChar h
      exact (ih hr).letter he
  | case18 c r hquote hbackslash hcontrol ih =>
      obtain ⟨_, hr⟩ := exists_of_consChar h
      exact (ih hr).plain hquote hbackslash (by omega)
  | _ => cases h

/-! ### Numbers -/

section Numbers

open Json (NumberText)

/-- The digits in front of the point are those that the text starts with. -/
lemma of_readWhole {whole : List Char} (h : NumberText.readWhole s = .ok (whole, t)) :
    whole = s.takeWhile Char.isDigit ∧ t = s.dropWhile Char.isDigit ∧ whole ≠ [] ∧
      ∀ r, s = '0' :: r → t = r := by
  unfold NumberText.readWhole at h
  split at h
  · cases h
  -- a leading zero, behind which no digit is allowed
  · next r =>
    split at h
    · next d r' =>
      split at h
      · cases h
      · next hd =>
        cases h
        refine ⟨?_, ?_, by simp, ?_⟩
        · simp [hd]
        · simp [hd]
        · rintro r ⟨⟩
          rfl
    · cases h
      exact ⟨rfl, rfl, by simp, by rintro r ⟨⟩; rfl⟩
  -- any other digit, or none
  · next c r hzero =>
    split at h
    · next hc =>
      cases h
      refine ⟨rfl, rfl, ?_, ?_⟩
      · simp [hc]
      · rintro r ⟨⟩
        exact absurd rfl hzero
    · cases h

/-- The digits behind a point go on as far as they can; without a point there are none. -/
lemma of_readFraction {fraction : List Char} (h : NumberText.readFraction s = .ok (fraction, t)) :
    (∃ r, s = '.' :: r ∧ t = r.dropWhile Char.isDigit) ∨ (t = s ∧ s.head? ≠ some '.') := by
  unfold NumberText.readFraction at h
  split at h
  · next r =>
    refine .inl ⟨r, rfl, ?_⟩
    split at h
    · cases h
    · cases h
    · exact (Prod.mk.inj (Except.ok.inj h)).2.symm
  · next hpoint =>
    cases h
    refine .inr ⟨rfl, fun hhead => ?_⟩
    obtain ⟨r, rfl⟩ := List.head?_eq_some_iff.mp hhead
    exact hpoint r rfl

/-- Whole part and fraction are a mantissa. -/
lemma exists_readMantissa? {u whole fraction : List Char}
    (hw : NumberText.readWhole s = .ok (whole, t))
    (hf : NumberText.readFraction t = .ok (fraction, u)) :
    IsBehind u s ∧ ∃ mantissa, Number.readMantissa? s = some (mantissa, u) := by
  obtain ⟨rfl, rfl, hne, -⟩ := of_readWhole hw
  have hwhole : IsBehind (s.dropWhile Char.isDigit) s := .dropWhile rfl s
  have hempty : (s.takeWhile Char.isDigit).isEmpty = false := by simpa using hne
  rw [Number.readMantissa?]
  rcases of_readFraction hf with ⟨r, hr, rfl⟩ | ⟨rfl, hpoint⟩
  · rw [hr] at hwhole ⊢
    simp only [hempty, Bool.false_and]
    exact ⟨.trans (.cons (by decide) (.dropWhile rfl r)) hwhole, _, rfl⟩
  · refine ⟨hwhole, ?_⟩
    dsimp only
    split
    · next r hr => exact absurd (by rw [hr]; rfl) hpoint
    · rw [hempty]
      exact ⟨_, rfl⟩

/-- A sign, if there is one, is taken from what starts with a digit behind it. -/
lemma readExponent?_sign {c d : Char} {sign : List Char} (hc : c = 'e' ∨ c = 'E')
    (hs : sign = [] ∨ sign = ['+'] ∨ sign = ['-']) (hd : d.isDigit = true) (r : List Char) :
    ∃ x, Number.readExponent? (c :: (sign ++ d :: r)) =
      some (x, (d :: r).dropWhile Char.isDigit) := by
  have hsign : (d = '+' || d = '-') = false :=
    of_numeral (fun d => d.isDigit = true → (d = '+' || d = '-') = false) (by decide)
      (by simp [hd]) hd
  have htake : ((sign ++ d :: r).takeWhile fun d => d = '+' || d = '-').take 1 = sign := by
    rcases hs with rfl | rfl | rfl <;> simp [hsign]
  rw [Number.readExponent?, if_pos hc, htake]
  dsimp only
  rw [List.drop_left, if_neg (by simp [hd])]
  exact ⟨_, rfl⟩

/-- An exponent of JSON is one. -/
lemma of_readExponent {exponent : Option (Bool × List Char)}
    (h : NumberText.readExponent s = .ok (exponent, t)) :
    IsBehind t s ∧ (t = s ∨ ∃ c r, s = c :: r ∧ (c = 'e' ∨ c = 'E')) ∧
      ∃ x, Number.readExponent? s = some (x, t) := by
  unfold NumberText.readExponent at h
  extract_lets digitsOf at h
  -- behind the letter and the sign there has to be a digit, whatever the sign is
  have hdigits {c : Char} {r : List Char} {negative : Bool} (sign : List Char)
      (hc : c = 'e' ∨ c = 'E') (hs : sign = [] ∨ sign = ['+'] ∨ sign = ['-'])
      (h : digitsOf negative r = .ok (exponent, t)) :
      IsBehind t (c :: (sign ++ r)) ∧
        ∃ x, Number.readExponent? (c :: (sign ++ r)) = some (x, t) := by
    cases r with
    | nil => cases h
    | cons d r =>
        simp only [digitsOf] at h
        split at h
        · next hd =>
          cases h
          have hchar : c ≠ '\x00' := by rcases hc with rfl | rfl <;> decide
          have hsign : '\x00' ∉ sign := by rcases hs with rfl | rfl | rfl <;> decide
          exact ⟨.cons hchar (.append hsign (.dropWhile rfl _)), readExponent?_sign hc hs hd r⟩
        · cases h
  split at h
  · next c r =>
    split at h
    · next hc =>
      have hstart : ∃ d r', c :: r = d :: r' ∧ (d = 'e' ∨ d = 'E') := ⟨c, r, rfl, hc⟩
      split at h
      · obtain ⟨hbehind, hread⟩ := hdigits ['+'] hc (by simp) h
        exact ⟨hbehind, .inr hstart, hread⟩
      · obtain ⟨hbehind, hread⟩ := hdigits ['-'] hc (by simp) h
        exact ⟨hbehind, .inr hstart, hread⟩
      · obtain ⟨hbehind, hread⟩ := hdigits [] hc (by simp) h
        exact ⟨hbehind, .inr hstart, hread⟩
    · next hc =>
      cases h
      rw [Number.readExponent?, if_neg hc]
      exact ⟨.refl _, .inl rfl, _, rfl⟩
  · cases h
    exact ⟨.refl _, .inl rfl, [], rfl⟩

/-- What follows a whole part makes it neither octal nor hexadecimal. -/
lemma not_radix_of_parts {u whole fraction : List Char} {exponent : Option (Bool × List Char)}
    {c : Char} (hw : NumberText.readWhole s = .ok (whole, c :: t))
    (hf : NumberText.readFraction (c :: t) = .ok (fraction, u))
    (he : NumberText.readExponent u = .ok (exponent, rest)) (hr : Ends rest) :
    c.isDigit = false ∧ c ≠ 'x' ∧ c ≠ 'X' := by
  obtain ⟨-, hdrop, -⟩ := of_readWhole hw
  have hdigit : c.isDigit = false := by
    have hhead := List.head?_dropWhile_not Char.isDigit s
    rw [← hdrop] at hhead
    simpa using hhead
  -- what stands behind the whole part is a point, an exponent or the end
  rcases of_readFraction hf with ⟨r, hr, -⟩ | ⟨rfl, -⟩
  · cases hr
    decide
  · obtain ⟨-, hexponent, -⟩ := of_readExponent he
    rcases hexponent with rfl | ⟨d, r, hd, rfl | rfl⟩
    · exact Number.not_radix_of_ends hr
    · cases hd
      decide
    · cases hd
      decide

/-- The parts of a number behind its sign are read as one. -/
lemma exists_readMagnitude? (negative : Bool) {u whole fraction : List Char}
    {exponent : Option (Bool × List Char)} (hw : NumberText.readWhole s = .ok (whole, t))
    (hf : NumberText.readFraction t = .ok (fraction, u))
    (he : NumberText.readExponent u = .ok (exponent, rest)) (hr : Ends rest) :
    ∃ raw, Number.readMagnitude? negative s = some (.decimal raw, rest) := by
  obtain ⟨-, mantissa, hmantissa⟩ := exists_readMantissa? hw hf
  obtain ⟨-, -, x, hx⟩ := of_readExponent he
  obtain ⟨-, -, -, hzero⟩ := of_readWhole hw
  unfold Number.readMagnitude?
  simp only [hmantissa, hx, bind, Option.bind]
  -- only texts that start with a zero could be of another radix
  split
  · next c d r =>
    cases hzero _ rfl
    obtain ⟨hdigit, hx, hX⟩ := not_radix_of_parts hw hf he hr
    rw [if_neg (by simp [hx, hX]), if_neg (by simp [hdigit])]
    exact ⟨_, rfl⟩
  · next d =>
    cases hzero _ rfl
    obtain ⟨hdigit, -⟩ := not_radix_of_parts hw hf he hr
    rw [if_neg (by simp [hdigit])]
    exact ⟨_, rfl⟩
  · exact ⟨_, rfl⟩

/-- The parts of a number of JSON stand one behind the other. -/
lemma exists_parts_of_read {n : NumberText} (h : NumberText.read s = .ok (n, rest)) :
    ∃ (negative : Bool) (u whole v fraction w : List Char) (exponent : Option (Bool × List Char)),
      s = (if negative then ['-'] else []) ++ u ∧ NumberText.readWhole u = .ok (whole, v) ∧
        NumberText.readFraction v = .ok (fraction, w) ∧
        NumberText.readExponent w = .ok (exponent, rest) := by
  unfold NumberText.read at h
  split at h
  next negative u heq =>
  obtain ⟨⟨whole, v⟩, hw, h⟩ := Except.bind_eq_ok.mp h
  obtain ⟨⟨fraction, w⟩, hf, h⟩ := Except.bind_eq_ok.mp h
  obtain ⟨⟨exponent, x⟩, he, h⟩ := Except.bind_eq_ok.mp h
  cases h
  refine ⟨negative, u, whole, v, fraction, w, exponent, ?_, hw, hf, he⟩
  split at heq <;>
  · cases heq
    rfl

/-- A number of JSON is read as a decimal one, if the text goes on with neither a word nor a
number. -/
lemma exists_read?_of_read {n : NumberText} (h : NumberText.read s = .ok (n, rest))
    (hr : Ends rest) : IsBehind rest s ∧ ∃ raw, Number.read? s = some (.decimal raw, rest) := by
  obtain ⟨negative, u, whole, v, fraction, w, exponent, rfl, hw, hf, he⟩ := exists_parts_of_read h
  have hbehind : IsBehind rest u := (of_readExponent he).1.trans (exists_readMantissa? hw hf).1
  obtain ⟨raw, hraw⟩ := exists_readMagnitude? negative hw hf he hr
  obtain ⟨rfl, -, hne, -⟩ := of_readWhole hw
  -- a sign is followed by a digit, so the text is no infinity
  obtain ⟨c, r, rfl, hc⟩ : ∃ c r, u = c :: r ∧ c.isDigit = true := by
    cases u with
    | nil => exact absurd rfl hne
    | cons c r =>
        refine ⟨c, r, rfl, ?_⟩
        by_contra hc
        exact hne (List.takeWhile_cons_of_neg hc)
  have hnumeral : (c = '-' || c.isDigit) = true := by simp [hc]
  cases negative with
  | true =>
      refine ⟨hbehind.cons (by decide), raw, ?_⟩
      change Number.read? ('-' :: c :: r) = _
      rw [Number.read?, if_pos (.inr rfl), Number.behindInfinity?_of_numeral hnumeral]
      exact hraw
  | false =>
      have hsign := of_numeral (fun c => c.isDigit = true → ¬ (c = '+' ∨ c = '-')) (by decide)
        hnumeral hc
      refine ⟨hbehind, raw, ?_⟩
      change Number.read? (c :: r) = _
      rw [Number.read?, if_neg hsign]
      exact hraw

end Numbers

end LeasedStore.Json5
