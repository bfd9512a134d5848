/-
Documents whose members all have texts.

A reader takes over a decimal number however large it is, but a hexadecimal integer only if it fits
a word.  JSON has no hexadecimal integers, so that all its documents are well-formed in this sense.

* `Number.FitsWord`: does a number, if it is a hexadecimal integer, fit a word?
* `Json5.numbers`: the numbers of a document;
* `Json5.IsWellFormed`: is a text a document whose numbers all fit?
* `Number.isReadable_of_read?`: a number that was read and fits has a text;
* `exists_memberText`: whatever a path leads to in a well-formed document has a text, or is absent.
-/
import LeasedStore.Proofs.Json5.Member

namespace LeasedStore

/-! ### Decimal numbers -/

namespace Decimal.Written

lemma spanDigits_self {ds : List Char} (hd : ∀ c ∈ ds, c.isDigit = true) :
    spanDigits ds = (ds, []) := by
  have h : spanDigits (ds ++ []) = (ds, []) := spanDigits_append hd fun c hc => by cases hc
  rwa [List.append_nil] at h

/-- A sign in front of digits. -/
lemma exists_readSign {sign ds : List Char} (hs : sign = [] ∨ sign = ['+'] ∨ sign = ['-'])
    (hd : ∀ c ∈ ds, c.isDigit = true) : ∃ negative, readSign (sign ++ ds) = (negative, ds) := by
  rcases hs with rfl | rfl | rfl
  · refine ⟨false, ?_⟩
    rw [List.nil_append, readSign]
    · rintro r rfl
      exact absurd (hd '-' (List.mem_cons_self ..)) (by decide)
    · rintro r rfl
      exact absurd (hd '+' (List.mem_cons_self ..)) (by decide)
  · exact ⟨false, rfl⟩
  · exact ⟨true, rfl⟩

/-- Is the text that of an exponent, or nothing? -/
inductive IsExponent : List Char → Prop where
  | absent : IsExponent []
  | written {c : Char} (hc : c = 'e' ∨ c = 'E') {sign ds : List Char}
      (hs : sign = [] ∨ sign = ['+'] ∨ sign = ['-']) (hne : ds ≠ [])
      (hd : ∀ c ∈ ds, c.isDigit = true) : IsExponent (c :: (sign ++ ds))

namespace IsExponent

variable {x : List Char}

/-- What starts an exponent is neither a digit nor a point. -/
lemma of_head (h : IsExponent x) : ∀ c ∈ x.head?, c.isDigit = false ∧ c ≠ '.' := by
  intro c hc
  cases h with
  | absent => cases hc
  | written he =>
      cases hc
      rcases he with rfl | rfl <;> decide

/-- An exponent is read to its end. -/
lemma exists_readExponent (h : IsExponent x) :
    ∃ exponent, readExponent? x = some (exponent, []) := by
  cases h with
  | absent => exact ⟨none, rfl⟩
  | @written c hc sign ds hs hne hd =>
      obtain ⟨negative, hsign⟩ := exists_readSign hs hd
      refine ⟨some (negative, ds), ?_⟩
      rw [readExponent?, if_pos hc, hsign]
      simp [spanDigits_self hd, hne]

end IsExponent

/-- A digit or a point is neither blank nor a sign. -/
lemma not_sign_of_numeral {c : Char} (hc : c.isDigit = true ∨ c = '.') :
    ¬ isBlank c = true ∧ c ≠ '-' ∧ c ≠ '+' := by
  rcases hc with hc | rfl
  · have hblank := Json5.of_numeral (fun c => ¬ isBlank c = true) (by decide)
      (Bool.or_eq_true_iff.mpr (.inr hc))
    refine ⟨hblank, ?_, ?_⟩ <;>
      · rintro rfl
        exact absurd hc (by decide)
  · decide

/-- A sign is taken from what starts with a digit or a point behind it, and nothing else. -/
lemma exists_readSign_dropWhile (negative : Bool) {c : Char} (s : List Char)
    (hc : c.isDigit = true ∨ c = '.') :
    ∃ n, readSign (((if negative then ['-'] else []) ++ c :: s).dropWhile isBlank) =
      (n, c :: s) := by
  cases negative with
  | true => exact ⟨true, rfl⟩
  | false =>
      obtain ⟨hblank, hminus, hplus⟩ := not_sign_of_numeral hc
      refine ⟨false, ?_⟩
      rw [if_neg (by decide), List.nil_append, List.dropWhile_cons_of_neg hblank, readSign]
      · rintro r h
        exact hminus (List.cons.inj h).1
      · rintro r h
        exact hplus (List.cons.inj h).1

/-- A number is read from its parts. -/
lemma isSome_read? (negative : Bool) {whole x : List Char} {fraction : Option (List Char)}
    (hw : ∀ c ∈ whole, c.isDigit = true) (hf : ∀ ds ∈ fraction, ∀ c ∈ ds, c.isDigit = true)
    (hne : whole ++ fraction.getD [] ≠ []) (hx : IsExponent x) :
    (read? ((if negative then ['-'] else []) ++ (whole ++ fractionChars fraction) ++ x)).isSome =
      true := by
  -- the whole part ends where the digits do
  have hrest : ∀ c ∈ (fractionChars fraction ++ x).head?, c.isDigit = false := by
    cases fraction with
    | none => exact fun c hc => (hx.of_head c hc).1
    | some ds =>
        intro c hc
        cases hc
        decide
  -- so the text starts with a digit or a point, whichever part is there
  obtain ⟨c, s, hcs, hc⟩ : ∃ c s, whole ++ (fractionChars fraction ++ x) = c :: s ∧
      (c.isDigit = true ∨ c = '.') := by
    cases whole with
    | cons c s => exact ⟨c, _, rfl, .inl (hw c (List.mem_cons_self ..))⟩
    | nil =>
        cases fraction with
        | none => exact absurd rfl hne
        | some ds => exact ⟨'.', _, rfl, .inr rfl⟩
  obtain ⟨n, hsign⟩ := exists_readSign_dropWhile negative s hc
  obtain ⟨exponent, hexponent⟩ := hx.exists_readExponent
  rw [read?, List.append_assoc, List.append_assoc, hcs, hsign, ← hcs]
  simp only [spanDigits_append hw hrest, readFraction_append hf hx.of_head, bind, Option.bind,
    hexponent]
  rw [if_pos (by simpa using hne)]
  rfl

end Decimal.Written

/-! ### Numbers as they are read -/

namespace Json5.Number

open Decimal.Written (IsExponent fractionChars)

/-- Does a number, if it is a hexadecimal integer, fit a word of 64 bits? -/
def FitsWord : Number → Prop
  | decimal _ => True
  | hexadecimal _ digits => fitsWord digits = true

/-- Has a number a text if it fits a word? -/
def IsReadable (n : Number) : Prop := n.FitsWord → n.text?.isSome = true

lemma forall_mem_takeWhile {p : Char → Bool} {s : List Char} : ∀ c ∈ s.takeWhile p, p c = true :=
  fun _ hc => List.mem_takeWhile_imp hc

/-- The parts of a mantissa. -/
lemma readMantissa?_eq_some {s mantissa rest : List Char}
    (h : readMantissa? s = some (mantissa, rest)) :
    ∃ whole fraction, mantissa = whole ++ fractionChars fraction ∧
      (∀ c ∈ whole, c.isDigit = true) ∧ (∀ ds ∈ fraction, ∀ c ∈ ds, c.isDigit = true) ∧
      whole ++ fraction.getD [] ≠ [] := by
  rw [readMantissa?] at h
  dsimp only at h
  split at h
  · next r hr =>
    split at h
    · cases h
    · next hne =>
      cases h
      refine ⟨_, some (r.takeWhile Char.isDigit), rfl, forall_mem_takeWhile, ?_, ?_⟩
      · intro ds hds
        cases hds
        exact forall_mem_takeWhile
      · simpa using hne
  · split at h
    · cases h
    · next hne =>
      cases h
      refine ⟨_, none, (List.append_nil _).symm, forall_mem_takeWhile, fun ds hds => ?_, ?_⟩
      · cases hds
      · simpa using hne

/-- The sign in front of an exponent is one character at most. -/
lemma eq_of_take_sign {r sign : List Char}
    (h : (r.takeWhile fun d => d = '+' || d = '-').take 1 = sign) :
    sign = [] ∨ sign = ['+'] ∨ sign = ['-'] := by
  subst h
  cases r with
  | nil => exact .inl rfl
  | cons d r =>
      rw [List.takeWhile_cons]
      split
      · next hd =>
        rw [List.take_succ_cons, List.take_zero]
        simpa using hd
      · exact .inl rfl

/-- An exponent that was read is one. -/
lemma isExponent_of_readExponent? {s x rest : List Char} (h : readExponent? s = some (x, rest)) :
    IsExponent x := by
  cases s with
  | nil =>
      cases h
      exact .absent
  | cons c r =>
      rw [readExponent?] at h
      split at h
      · next hc =>
        dsimp only at h
        split at h
        · cases h
        · next hne =>
          cases h
          exact .written hc (eq_of_take_sign rfl) (by simpa using hne) forall_mem_takeWhile
      · cases h
        exact .absent

/-- A decimal number has a text if it is one. -/
lemma isReadable_decimal {raw : List Char} (h : (Decimal.Written.read? raw).isSome = true) :
    (decimal raw).IsReadable := by
  intro _
  obtain ⟨w, hw⟩ := Option.isSome_iff_exists.mp h
  rw [text?, hw]
  cases hi : w.integer? <;> simp [hi]

lemma isReadable_infinite (negative : Bool) : (infinite negative).IsReadable :=
  isReadable_decimal (by cases negative <;> decide)

/-- A hexadecimal integer has a text if it fits. -/
lemma isReadable_hexadecimal (negative : Bool) (digits : List Char) :
    (hexadecimal negative digits).IsReadable := by
  intro h
  rw [FitsWord] at h
  rw [text?, if_pos h]
  rfl

/-- A number that was read behind a sign has a text if it fits. -/
lemma isReadable_of_readMagnitude? {negative : Bool} {s rest : List Char} {n : Number}
    (h : readMagnitude? negative s = some (n, rest)) : n.IsReadable := by
  unfold readMagnitude? at h
  extract_lets decimal at h
  have hdecimal (h : decimal = some (n, rest)) : n.IsReadable := by
    obtain ⟨⟨mantissa, s'⟩, hm, h⟩ := Option.bind_eq_some_iff.mp h
    obtain ⟨⟨exponent, s''⟩, he, h⟩ := Option.bind_eq_some_iff.mp h
    cases h
    obtain ⟨whole, fraction, rfl, hw, hf, hne⟩ := readMantissa?_eq_some hm
    exact isReadable_decimal (Decimal.Written.isSome_read? negative hw hf hne
      (isExponent_of_readExponent? he))
  -- a leading zero may stand for another radix, and else is like any digit
  split at h
  · split at h
    · cases h
      exact isReadable_hexadecimal _ _
    · split at h
      · cases h
      · exact hdecimal h
  · split at h
    · cases h
    · exact hdecimal h
  · exact hdecimal h

/-- A number that was read has a text if it fits. -/
theorem isReadable_of_read? {s rest : List Char} {n : Number} (h : read? s = some (n, rest)) :
    n.IsReadable := by
  cases s with
  | nil => cases h
  | cons c s =>
      rw [read?] at h
      split at h
      · split at h
        · cases h
          exact isReadable_infinite _
        · exact isReadable_of_readMagnitude? h
      · exact isReadable_of_readMagnitude? h

end Json5.Number

/-! ### The numbers of a document -/

namespace Json5

mutual

/-- The numbers of a document, wherever they stand in it. -/
def numbers : Json5 → List Number
  | number n => [n]
  | array items => itemNumbers items
  | object members => memberNumbers members
  | _ => []

/-- The numbers of some items. -/
def itemNumbers : List Json5 → List Number
  | [] => []
  | item :: rest => numbers item ++ itemNumbers rest

/-- The numbers of the values of some members. -/
def memberNumbers : List (Quoted × Json5) → List Number
  | [] => []
  | (_, value) :: rest => numbers value ++ memberNumbers rest

end

/-- The numbers of the value of a member are among those of the members. -/
lemma mem_memberNumbers {members : List (Quoted × Json5)} {m : Quoted × Json5} {n : Number}
    (hm : m ∈ members) (hn : n ∈ m.2.numbers) : n ∈ memberNumbers members := by
  induction members with
  | nil => cases hm
  | cons member rest ih =>
      obtain ⟨key, value⟩ := member
      rw [memberNumbers]
      rcases List.mem_cons.mp hm with rfl | hm
      · exact List.mem_append_left _ hn
      · exact List.mem_append_right _ (ih hm)

/-- The numbers of the value along some keys are among those of the document. -/
lemma mem_numbers_of_along? {keys : List (List Char)} {j m : Json5} {n : Number}
    (h : j.along? keys = some m) (hn : n ∈ m.numbers) : n ∈ j.numbers := by
  induction keys generalizing j with
  | nil =>
      cases h
      exact hn
  | cons key keys ih =>
      obtain ⟨value, hvalue, h⟩ := Option.bind_eq_some_iff.mp h
      have hn := ih h
      cases j with
      | object members =>
          obtain ⟨member, hfind, rfl⟩ := Option.map_eq_some_iff.mp hvalue
          rw [numbers]
          exact mem_memberNumbers (List.mem_of_find?_eq_some hfind) hn
      | null => cases hvalue
      | bool b => cases hvalue
      | number n => cases hvalue
      | string s => cases hvalue
      | array items => cases hvalue

/-! ### Documents as they are read -/

/-- The numbers that are written as words have texts. -/
lemma isReadable_of_readWord? {s rest : List Char} {j : Json5} (h : readWord? s = some (j, rest)) :
    ∀ n ∈ j.numbers, n.IsReadable := by
  have hword {value : Json5} {behind : Option (List Char)}
      (h : (do return (value, ← atWordEnd (← behind))) = some (j, rest)) : value = j := by
    obtain ⟨_, -, h⟩ := Option.bind_eq_some_iff.mp h
    obtain ⟨_, -, h⟩ := Option.bind_eq_some_iff.mp h
    cases h
    rfl
  have hnull : ∀ n ∈ Json5.null.numbers, n.IsReadable := fun n hn => by cases hn
  have hbool (b : Bool) : ∀ n ∈ (Json5.bool b).numbers, n.IsReadable := fun n hn => by cases hn
  have hinfinite : ∀ n ∈ (Json5.number (.infinite false)).numbers, n.IsReadable := by
    intro n hn
    cases List.mem_singleton.mp hn
    exact Number.isReadable_infinite false
  obtain ⟨word, hmem, h⟩ := List.exists_of_findSome?_eq_some h
  simp only [List.mem_cons, List.not_mem_nil, or_false] at hmem
  -- eight words are known, and all of them mean one of these values
  rcases hmem with rfl | rfl | rfl | rfl | rfl | rfl | rfl | rfl
  · exact hword h ▸ hbool true
  · exact hword h ▸ hbool false
  · exact hword h ▸ hnull
  · exact hword h ▸ hinfinite
  · exact hword h ▸ hinfinite
  · exact hword h ▸ hnull
  · exact hword h ▸ hnull
  · exact hword h ▸ hnull

/-- What a reader with some fuel reads has numbers with texts, if they fit. -/
structure ReadsNumbers (fuel : Nat) : Prop where
  value {room : Nat} {s rest : List Char} {j : Json5}
    (h : readValue fuel room s = some (j, rest)) : ∀ n ∈ j.numbers, n.IsReadable
  items {room : Nat} {s rest : List Char} {items : List Json5}
    (h : readItems fuel room s = some (items, rest)) : ∀ n ∈ itemNumbers items, n.IsReadable
  members {room : Nat} {s rest : List Char} {members : List (Quoted × Json5)}
    (h : readMembers fuel room s = some (members, rest)) :
      ∀ n ∈ memberNumbers members, n.IsReadable

namespace ReadsNumbers

variable {fuel room : Nat} {s rest : List Char}

/-- A value is one of a few characters, a word, a number, or made of items or members. -/
lemma value_succ (ih : ReadsNumbers fuel) {j : Json5}
    (h : readValue (fuel + 1) room s = some (j, rest)) : ∀ n ∈ j.numbers, n.IsReadable := by
  unfold readValue at h
  split at h
  · cases h
  · cases h
  · obtain ⟨⟨items, r⟩, hr, h⟩ := Option.map_eq_some_iff.mp h
    cases h
    rw [numbers]
    exact ih.items hr
  · obtain ⟨⟨members, r⟩, hr, h⟩ := Option.map_eq_some_iff.mp h
    cases h
    rw [numbers]
    exact ih.members hr
  -- neither an array nor an object: a string, a word or a number
  · split at h
    · cases h
      exact fun n hn => by cases hn
    · split at h
      · next r hr =>
        cases h
        exact isReadable_of_readWord? hr
      · obtain ⟨⟨n, r⟩, hr, h⟩ := Option.map_eq_some_iff.mp h
        cases h
        intro n hn
        cases List.mem_singleton.mp hn
        exact Number.isReadable_of_read? hr

/-- Items are a first one and more, if a comma follows it. -/
lemma items_succ (ih : ReadsNumbers fuel) {items : List Json5}
    (h : readItems (fuel + 1) room s = some (items, rest)) :
    ∀ n ∈ itemNumbers items, n.IsReadable := by
  rw [readItems] at h
  split at h
  · cases h
    exact fun n hn => by cases hn
  · obtain ⟨⟨item, r⟩, hitem, h⟩ := Option.bind_eq_some_iff.mp h
    have hvalue := ih.value hitem
    dsimp only at h
    split at h
    · cases h
      simpa [itemNumbers] using hvalue
    · obtain ⟨⟨more, r⟩, hmore, h⟩ := Option.bind_eq_some_iff.mp h
      cases h
      intro n hn
      rcases List.mem_append.mp hn with hn | hn
      · exact hvalue n hn
      · exact ih.items hmore n hn
    · cases h

/-- Members are a first one and more, if a comma follows it.  A key has no number. -/
lemma members_succ (ih : ReadsNumbers fuel) {members : List (Quoted × Json5)}
    (h : readMembers (fuel + 1) room s = some (members, rest)) :
    ∀ n ∈ memberNumbers members, n.IsReadable := by
  rw [readMembers] at h
  split at h
  · cases h
    exact fun n hn => by cases hn
  · obtain ⟨⟨key, r⟩, -, h⟩ := Option.bind_eq_some_iff.mp h
    dsimp only at h
    split at h
    · obtain ⟨⟨value, r⟩, hvalue, h⟩ := Option.bind_eq_some_iff.mp h
      have hvalue := ih.value hvalue
      dsimp only at h
      split at h
      · cases h
        simpa [memberNumbers] using hvalue
      · obtain ⟨⟨more, r⟩, hmore, h⟩ := Option.bind_eq_some_iff.mp h
        cases h
        intro n hn
        rcases List.mem_append.mp hn with hn | hn
        · exact hvalue n hn
        · exact ih.members hmore n hn
      · cases h
    · cases h

end ReadsNumbers

theorem readsNumbers (fuel : Nat) : ReadsNumbers fuel := by
  induction fuel with
  | zero => exact ⟨nofun, nofun, nofun⟩
  | succ fuel ih => exact ⟨ih.value_succ, ih.items_succ, ih.members_succ⟩

/-! ### Well-formed documents -/

/-- Is the text a document whose hexadecimal integers fit words of 64 bits?  JSON has no such
integers. -/
def IsWellFormed (text : String) : Prop := ∃ j, ofText? text = some j ∧ ∀ n ∈ j.numbers, n.FitsWord

/-- The numbers of a well-formed document have texts. -/
lemma IsWellFormed.exists_numbers {text : String} (h : IsWellFormed text) :
    ∃ j, ofText? text = some j ∧ ∀ n ∈ j.numbers, n.text?.isSome = true := by
  obtain ⟨j, hj, hfits⟩ := h
  refine ⟨j, hj, fun n hn => ?_⟩
  obtain ⟨⟨j', rest⟩, hread, hj⟩ := Option.bind_eq_some_iff.mp hj
  dsimp only at hj
  split at hj
  · cases hj
    exact (readsNumbers _).value hread n hn (hfits n hn)
  · cases hj

/-- A value whose numbers have texts is taken over by a column of texts. -/
lemma exists_columnText {j : Json5} (h : ∀ n ∈ j.numbers, n.text?.isSome = true) :
    ∃ s, j.columnText = .ok s := by
  cases j with
  | number n =>
      obtain ⟨s, hs⟩ := Option.isSome_iff_exists.mp (h n (List.mem_singleton_self n))
      exact ⟨some (Text.codes s.toList), by rw [columnText, hs]⟩
  | null => exact ⟨_, rfl⟩
  | bool b => exact ⟨_, rfl⟩
  | string s => exact ⟨_, rfl⟩
  | array items => exact ⟨_, rfl⟩
  | object members => exact ⟨_, rfl⟩

end Json5

/-- Whatever a path leads to in a well-formed document has a text, or is absent, if what is looked
at of the path is one. -/
theorem exists_memberText {path : String} {c : Cell}
    (hpath : (JsonPath.read (path.toList.takeWhile (· ≠ '\x00'))).isWhole = true)
    (hc : ∀ document, c = .text document → Json5.IsWellFormed document) :
    ∃ s, memberText path c = .ok s := by
  cases c with
  | text document =>
      obtain ⟨j, hj, htexts⟩ := (hc document rfl).exists_numbers
      rw [memberText]
      simp only [hj, hpath]
      cases hm : j.along? (JsonPath.read (path.toList.takeWhile (· ≠ '\x00'))).keys with
      | none => exact ⟨none, rfl⟩
      | some m =>
          exact Json5.exists_columnText fun n hn => htexts n (Json5.mem_numbers_of_along? hm hn)
  | null => exact ⟨none, rfl⟩
  | int n => exact ⟨none, rfl⟩
  | real x => exact ⟨none, rfl⟩

/-- What is no path leads to nothing. -/
lemma eq_none_of_memberText {path : String} {c : Cell} {s : Option Text.Codes}
    (hpath : ¬ (JsonPath.read (path.toList.takeWhile (· ≠ '\x00'))).isWhole = true)
    (h : memberText path c = .ok s) : s = none := by
  cases c with
  | text document =>
      rw [memberText] at h
      split at h
      · cases h
      · split at h
        · cases h
          rfl
        · rw [if_neg hpath] at h
          cases h
  | _ =>
      cases h
      rfl

end LeasedStore
