/-
Strings of JSON documents, as a reader of JSON5 sees them.

What was written as a JSON string has its special characters behind backslashes and is read as it is
written.  It stands for the characters that it was written from, and so does a key.

* `Quoted.ofString`: a string as it is written;
* `Quoted.read?_escaped`: it is read so;
* `Quoted.codes_ofChars`: what it stands for;
* `Label.meaning`: what a key of a path stands for, its escapes resolved;
* `Label.isSame_ofChars`: it names the keys that stand for the same up to a NUL.
-/
import Mathlib.Data.List.TakeWhile
import LeasedStore.Json5.Label
import LeasedStore.Proofs.Json.Scalars
import LeasedStore.Proofs.Text.Bytes

namespace LeasedStore.Json5

open Text (Codes bytes charBytes)

/-- How a character is written. -/
def charStyle (c : Char) : Style := if (Json.escapeChar c).length = 1 then .plain else .escaped

/-- How characters are written. -/
def styleOf : List Char → Style
  | [] => .plain
  | c :: cs => (charStyle c).join (styleOf cs)

namespace Quoted

/-- A string of some characters, as it is written. -/
def ofChars (cs : List Char) : Quoted := ⟨styleOf cs, cs.flatMap Json.escapeChar⟩

/-- A string as it is written. -/
def ofString (s : String) : Quoted := ofChars s.toList

/-! ### Reading -/

/-- The digits of a control character are hexadecimal. -/
lemma isHexDigit_hexDigit {n : Nat} (h : n < 0x20) :
    ['0', '0', Json.hexDigit (n / 16), Json.hexDigit (n % 16)].all isHexDigit = true := by
  have hall : ∀ n < 0x20,
      ['0', '0', Json.hexDigit (n / 16), Json.hexDigit (n % 16)].all isHexDigit = true := by
    decide
  exact hall n h

/-- A character that JSON does not escape is read as it is. -/
lemma read?_plain {c : Char} (hquote : c ≠ '"') (hbackslash : c ≠ '\\') (hcontrol : 0x20 ≤ c.toNat)
    (rest : List Char) : read? '"' (c :: rest) = prepend .plain [c] (read? '"' rest) := by
  have hnul : c ≠ '\x00' := by
    rintro rfl
    exact absurd hcontrol (by decide)
  rw [read?]
  · rw [if_neg hquote, if_neg hnul, if_neg (by simp [hquote]; omega)]
  · exact hbackslash

/-- A character that was escaped is read as it is written. -/
lemma read?_escapeChar (c : Char) (rest : List Char) :
    read? '"' (Json.escapeChar c ++ rest) =
      prepend (charStyle c) (Json.escapeChar c) (read? '"' rest) := by
  have hesc := Json.isEscaped_escapeChar c
  rw [charStyle]
  generalize Json.escapeChar c = cs at hesc
  cases hesc with
  | letter l h hl =>
      simp only [List.mem_cons, List.not_mem_nil, or_false] at hl
      rcases hl with rfl | rfl | rfl | rfl | rfl | rfl | rfl <;> rfl
  | control h =>
      simp only [List.cons_append, List.nil_append]
      rw [read?, if_pos (isHexDigit_hexDigit h)]
      rfl
  | plain hquote hbackslash hcontrol => exact read?_plain hquote hbackslash hcontrol rest

/-- Characters that were escaped are read as they are written, up to the quote behind them. -/
lemma read?_escaped (cs rest : List Char) :
    read? '"' (cs.flatMap Json.escapeChar ++ '"' :: rest) = some (ofChars cs, rest) := by
  induction cs with
  | nil => rfl
  | cons c cs ih =>
      rw [List.flatMap_cons, List.append_assoc, read?_escapeChar, ih]
      rfl

/-! ### Meaning -/

/-- The digits of a control character stand for it. -/
lemma hexNumber_hexDigit {n : Nat} (h : n < 0x20) :
    hexNumber ['0', '0', Json.hexDigit (n / 16), Json.hexDigit (n % 16)] = n := by
  have hall : ∀ n < 0x20,
      hexNumber ['0', '0', Json.hexDigit (n / 16), Json.hexDigit (n % 16)] = n := by
    decide
  exact hall n h

/-- A character that was escaped stands for itself. -/
lemma unescape_escapeChar (c : Char) (rest : List Char) :
    unescape (Json.escapeChar c ++ rest) = c.toNat :: unescape rest := by
  have hesc := Json.isEscaped_escapeChar c
  generalize Json.escapeChar c = cs at hesc
  cases hesc with
  | letter l h hl =>
      simp only [List.mem_cons, List.not_mem_nil, or_false] at hl
      rcases hl with rfl | rfl | rfl | rfl | rfl | rfl | rfl <;> cases h <;> rfl
  | control h =>
      have hhigh : Text.isHighSurrogate (hexNumber ['0', '0', Json.hexDigit (c.toNat / 16),
          Json.hexDigit (c.toNat % 16)]) = false := by
        rw [hexNumber_hexDigit h, Text.isHighSurrogate]
        simp only [Bool.and_eq_false_imp, decide_eq_true_eq]
        omega
      simp only [List.cons_append, List.nil_append]
      -- another escape behind it does not make it the half of a surrogate pair
      by_cases hpair : ∃ e f g h rest', rest = '\\' :: 'u' :: e :: f :: g :: h :: rest'
      · obtain ⟨e, f, g, h', rest', rfl⟩ := hpair
        rw [unescape, hhigh, hexNumber_hexDigit h]
        rfl
      · rw [unescape, hexNumber_hexDigit h]
        rintro e f g h' rest' rfl
        exact hpair ⟨e, f, g, h', rest', rfl⟩
  | plain hquote hbackslash hcontrol =>
      rw [List.singleton_append, unescape]
      exact hbackslash

lemma unescape_escaped (cs : List Char) :
    unescape (cs.flatMap Json.escapeChar) = Text.codes cs := by
  induction cs with
  | nil => rfl
  | cons c cs ih => rw [List.flatMap_cons, unescape_escapeChar, ih, Text.codes_cons]

/-- Plain characters are written as they are. -/
lemma flatMap_of_plain {cs : List Char} (h : styleOf cs = .plain) :
    cs.flatMap Json.escapeChar = cs := by
  induction cs with
  | nil => rfl
  | cons c cs ih =>
      have hesc := Json.isEscaped_escapeChar c
      rw [styleOf, charStyle] at h
      rw [List.flatMap_cons]
      generalize Json.escapeChar c = x at hesc h
      cases hesc with
      | letter l _ hl => cases hs : styleOf cs <;> rw [hs] at h <;> cases h
      | control _ => cases hs : styleOf cs <;> rw [hs] at h <;> cases h
      | plain _ _ _ =>
          have hrest : styleOf cs = .plain := by
            cases hs : styleOf cs <;> rw [hs] at h <;> first | rfl | cases h
          rw [ih hrest]
          rfl

/-- An escape has no control characters. -/
lemma le_of_mem_escapeChar {c d : Char} (h : d ∈ Json.escapeChar c) : 0x20 ≤ d.toNat := by
  have hesc := Json.isEscaped_escapeChar c
  generalize Json.escapeChar c = cs at hesc h
  cases hesc with
  | letter l _ hl =>
      have hall : ∀ l ∈ ['"', '\\', 'b', 'f', 'n', 'r', 't'], ∀ d ∈ ['\\', l], 0x20 ≤ d.toNat := by
        simp
      exact hall l hl d h
  | control hc =>
      have hall : ∀ n < 0x20, 0x20 ≤ (Json.hexDigit (n / 16)).toNat ∧
          0x20 ≤ (Json.hexDigit (n % 16)).toNat := by decide
      have hdigits := hall c.toNat hc
      have hchars : ∀ d ∈ ['\\', 'u', '0', '0', Json.hexDigit (c.toNat / 16),
          Json.hexDigit (c.toNat % 16)], 0x20 ≤ d.toNat := by
        simp [hdigits.1, hdigits.2]
      exact hchars d h
  | plain _ _ hc => exact List.mem_singleton.mp h ▸ hc

lemma not_mem_of_plain {cs : List Char} (h : styleOf cs = .plain) : '\x00' ∉ cs := by
  intro hmem
  rw [← flatMap_of_plain h] at hmem
  obtain ⟨c, -, hc⟩ := List.mem_flatMap.mp hmem
  exact absurd (le_of_mem_escapeChar hc) (by decide)

lemma codes_ofChars (cs : List Char) : (ofChars cs).codes = Text.codes cs := by
  rw [codes]
  split
  · next h => rw [ofChars, flatMap_of_plain h]
  · exact unescape_escaped cs

end Quoted

/-! ### Keys -/

namespace Label

/-- Is the byte one of those behind the first one of a character? -/
def isTail (t : Nat) : Bool := 0x80 ≤ t && t < 0xC0

lemma isTail_add (n : Nat) : isTail (n % 64 + 0x80) = true := by
  simp only [isTail, Bool.and_eq_true, decide_eq_true_eq]
  omega

/-- No character goes on in the bytes of those behind it. -/
lemma takeWhile_bytes (cs : List Char) (n : Nat) : ((bytes cs).take n).takeWhile isTail = [] := by
  cases cs with
  | nil => simp [bytes]
  | cons c cs =>
      have hhead : ∃ b rest, charBytes c = b :: rest ∧ isTail b = false := by
        have henc := Text.isEncoded_charBytes c
        generalize charBytes c = x at henc
        cases henc <;> refine ⟨_, _, rfl, ?_⟩ <;>
          simp only [isTail, Bool.and_eq_false_imp, decide_eq_true_eq, decide_eq_false_iff_not] <;>
          omega
      obtain ⟨b, rest, hb, ht⟩ := hhead
      rw [Text.bytes_cons, hb]
      cases n with
      | zero => rfl
      | succ n =>
          rw [List.cons_append, List.take_succ_cons, List.takeWhile_cons_of_neg (by simp [ht])]

/-- A character of several bytes is decoded from them. -/
lemma decode_of_tail {b : Nat} {tail : List Nat} (hb : 0xC0 ≤ b)
    (ht : ∀ t ∈ tail, isTail t = true) (hl : tail.length ≤ 3) (cs : List Char) :
    decode (b :: (tail ++ bytes cs)) =
      (tail.foldl (fun n t => n * 64 + t % 64)
        (if b < 0xE0 then b % 32 else if b < 0xF0 then b % 16 else b % 8), bytes cs) := by
  have htake : ((tail ++ bytes cs).take 3).takeWhile isTail = tail := by
    rw [List.take_append, List.take_of_length_le hl, List.takeWhile_append_of_pos ht,
      takeWhile_bytes, List.append_nil]
  have htail : ((tail ++ bytes cs).take 3).takeWhile (fun t => 0x80 ≤ t && t < 0xC0) = tail := htake
  rw [decode, if_neg (by omega)]
  simp only [htail, List.drop_left]

/-- A character is decoded from its bytes. -/
lemma decode_charBytes (c : Char) (cs : List Char) :
    decode (charBytes c ++ bytes cs) = (c.toNat, bytes cs) := by
  have henc := Text.isEncoded_charBytes c
  generalize charBytes c = x at henc
  cases henc with
  | one h => rw [List.singleton_append, decode, if_pos (by omega)]
  | two h h' =>
      rw [List.cons_append, decode_of_tail (by omega) (by simp [isTail_add]) (by simp),
        if_pos (by omega)]
      simp only [List.foldl_cons, List.foldl_nil]
      congr 1
      omega
  | three h h' =>
      rw [List.cons_append, decode_of_tail (by omega) (by simp [isTail_add]) (by simp),
        if_neg (by omega), if_pos (by omega)]
      simp only [List.foldl_cons, List.foldl_nil]
      congr 1
      omega
  | four h h' =>
      rw [List.cons_append, decode_of_tail (by omega) (by simp [isTail_add]) (by simp),
        if_neg (by omega), if_neg (by omega)]
      simp only [List.foldl_cons, List.foldl_nil]
      congr 1
      omega

/-- The escape of a control character stands for it. -/
lemma escape_control {n : Nat} (h : n < 0x20) (rest : List Nat) :
    escape (bytes ['u', '0', '0', Json.hexDigit (n / 16), Json.hexDigit (n % 16)] ++ rest) =
      (n, rest) := by
  have hall : ∀ n < 0x20, bytes ['u', '0', '0', Json.hexDigit (n / 16), Json.hexDigit (n % 16)] =
      [0x75, 0x30, 0x30, (Json.hexDigit (n / 16)).toNat, (Json.hexDigit (n % 16)).toNat] ∧
      hexNumber [0x30, 0x30, (Json.hexDigit (n / 16)).toNat, (Json.hexDigit (n % 16)).toNat] =
        n := by
    decide
  have hhigh : Text.isHighSurrogate n = false := by
    simp only [Text.isHighSurrogate, Bool.and_eq_false_imp, decide_eq_true_eq]
    omega
  obtain ⟨hbytes, hnumber⟩ := hall n h
  rw [hbytes]
  simp only [List.cons_append, List.nil_append]
  rw [escape, if_pos (by decide), if_neg (by simp)]
  simp only [List.take_succ_cons, List.take_zero, List.drop_succ_cons, List.drop_zero, hnumber,
    hhigh, Bool.false_and, Bool.false_eq_true, if_false]

/-- Without a backslash at the head there is no escape. -/
lemma head_of_ne {b : Nat} (hb : b ≠ 92) (rest : List Nat) :
    head (b :: rest) = decode (b :: rest) := by
  rw [head]
  rintro rest' heq
  cases heq
  exact hb rfl

/-- A character that was escaped is read from the bytes of its escape. -/
lemma head_escapeChar (c : Char) (cs : List Char) :
    head (bytes (Json.escapeChar c ++ cs)) = (c.toNat, bytes cs) := by
  have hesc := Json.isEscaped_escapeChar c
  generalize Json.escapeChar c = x at hesc
  cases hesc with
  | letter l h hl =>
      simp only [List.mem_cons, List.not_mem_nil, or_false] at hl
      rcases hl with rfl | rfl | rfl | rfl | rfl | rfl | rfl <;> cases h <;> rfl
  | control h =>
      have hescape := escape_control h (bytes cs)
      rw [← Text.bytes_append] at hescape
      exact hescape
  | plain hquote hbackslash hcontrol =>
      have hdecode := decode_charBytes c cs
      rw [List.singleton_append, Text.bytes_cons]
      have henc := Text.isEncoded_charBytes c
      generalize charBytes c = x at henc hdecode
      have hne : c.toNat ≠ 92 := fun h => hbackslash (Char.toNat_inj.mp h)
      cases henc <;> exact (head_of_ne (by omega) _).trans hdecode

/-- An escape is not without bytes. -/
lemma exists_bytes_escapeChar (c : Char) :
    ∃ b rest, bytes (Json.escapeChar c) = b :: rest := by
  have hesc := Json.isEscaped_escapeChar c
  generalize Json.escapeChar c = x at hesc
  cases hesc with
  | letter l h hl => exact ⟨_, _, rfl⟩
  | control h => exact ⟨_, _, rfl⟩
  | plain hquote hbackslash hcontrol =>
      obtain ⟨b, rest, hb⟩ := Text.exists_charBytes_eq_cons c
      exact ⟨b, rest ++ [], by rw [Text.bytes_cons, hb]; rfl⟩

/-- The code points of a key that was escaped are those that it was written from, up to a NUL. -/
lemma codesUpTo_escaped (cs : List Char) {n : Nat}
    (hn : (bytes (cs.flatMap Json.escapeChar)).length ≤ n) :
    codesUpTo n (bytes (cs.flatMap Json.escapeChar)) =
      (Text.codes cs).takeWhile (· ≠ 0) := by
  induction cs generalizing n with
  | nil => cases n <;> rfl
  | cons c cs ih =>
      have hhead := head_escapeChar c (cs.flatMap Json.escapeChar)
      obtain ⟨b, rest, hb⟩ := exists_bytes_escapeChar c
      rw [List.flatMap_cons] at hn ⊢
      rw [Text.bytes_append, hb, List.cons_append] at hhead hn ⊢
      simp only [List.length_cons, List.length_append] at hn
      -- there is fuel for the first character, since it has a byte at least
      obtain ⟨n, rfl⟩ : ∃ n', n = n' + 1 := ⟨n - 1, by omega⟩
      rw [codesUpTo, hhead, Text.codes_cons]
      · dsimp only
        rw [ih (by omega)]
        -- a NUL ends the key here and there
        by_cases hc : c.toNat = 0
        · rw [if_pos hc, List.takeWhile_cons_of_neg (by simp [hc])]
        · rw [if_neg hc, List.takeWhile_cons_of_pos (by simp [hc])]
      · exact fun h => by cases h

/-- Without NULs there is none to end at. -/
lemma takeWhile_codes {cs : List Char} (h : '\x00' ∉ cs) :
    (Text.codes cs).takeWhile (· ≠ 0) = Text.codes cs := by
  refine List.takeWhile_eq_self_iff.mpr fun n hn => ?_
  obtain ⟨c, hc, rfl⟩ := List.mem_map.mp hn
  refine decide_eq_true fun hzero => h ?_
  rwa [← (Char.toNat_inj.mp hzero : c = '\x00')]

/-- What a key of a path stands for: if it has a backslash its escapes are resolved, and in any case
a NUL is its end. -/
def meaning (label : List Char) : Codes :=
  if label.contains '\\' then codes (bytes label) else (Text.codes label).takeWhile (· ≠ 0)

lemma meaning_of_plain {label : List Char} (hbackslash : '\\' ∉ label) (hnul : '\x00' ∉ label) :
    meaning label = Text.codes label := by
  rw [meaning, if_neg (by simpa using hbackslash), takeWhile_codes hnul]

/-- A key of a path, without NULs, names the keys of members that stand for the same up to a NUL. -/
lemma isSame_ofChars {label : List Char} (hnul : '\x00' ∉ label) (cs : List Char) :
    isSame label (Quoted.ofChars cs) =
      decide (meaning label = (Text.codes cs).takeWhile (· ≠ 0)) := by
  have hraw : (Quoted.ofChars cs).raw = cs.flatMap Json.escapeChar := rfl
  have hcodes : codes (bytes (cs.flatMap Json.escapeChar)) = (Text.codes cs).takeWhile (· ≠ 0) :=
    codesUpTo_escaped cs (Nat.le_refl _)
  rw [isSame, meaning]
  by_cases hstyle : (Quoted.ofChars cs).style = .plain
  · have hplain := Quoted.flatMap_of_plain hstyle
    cases hbackslash : label.contains '\\' with
    | true => simp [hstyle, hraw, hplain]
    | false =>
        -- neither side has a NUL, so that the keys themselves are compared
        rw [takeWhile_codes hnul, takeWhile_codes (Quoted.not_mem_of_plain hstyle), hraw, hplain]
        simp only [hstyle, decide_true, Bool.not_false, Bool.and_self, if_true,
          Bool.false_eq_true, if_false, decide_eq_decide]
        exact ⟨congrArg _, fun h => Text.codes_injective h⟩
  · cases hbackslash : label.contains '\\' with
    | true => simp [hstyle, hraw, hcodes]
    | false => simp [hstyle, hraw, hcodes]

end Label

end LeasedStore.Json5
