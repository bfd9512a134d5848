/-
Documents of JSON, as a reader of JSON5 sees them.

A text that a reader of JSON reads without a fault is one that JSON5 reads: value by value, item by
item and member by member the two readers go equally far.  JSON nests less deep than JSON5 may, and
has no hexadecimal integers, so that the document is well-formed.

* `Takes`, `TakesValue`, `TakesItems`, `TakesMembers`: what is taken from the head of a text;
* `GoesOn`: how a text goes on behind an item or a member;
* `TakesJson`: whatever a reader of JSON with some fuel reads without a fault is taken;
* `isWellFormed_of_read`, `isWellFormed_of_ofText`: a document of JSON is well-formed.
-/
import LeasedStore.Proofs.Json.Depth
import LeasedStore.Proofs.Json5.Tokens
import LeasedStore.Proofs.Json5.WellFormed

namespace LeasedStore.Json5

variable {s t rest : List Char}

/-! ### Parts of documents -/

/-- Does a reader take something from the head of a text, with so much room at least, so that a text
is left?  Its numbers fit words, and the steps that it takes are counted by the text. -/
def Takes {γ : Type} (read : (fuel room : Nat) → List Char → Option (γ × List Char))
    (numbers : γ → List Number) (steps room : Nat) (s rest : List Char) : Prop :=
  IsBehind rest s ∧ ∃ x, (∀ n ∈ numbers x, n.FitsWord) ∧ ∀ {fuel room' : Nat},
    2 * s.length + steps ≤ fuel → room ≤ room' → read fuel room' s = some (x, rest)

/-- Is a value taken from the head of a text? -/
def TakesValue (room : Nat) (s rest : List Char) : Prop := Takes readValue numbers 0 room s rest

/-- Are items taken from the head of a text, up to the end of their array? -/
def TakesItems (room : Nat) (s rest : List Char) : Prop :=
  Takes readItems itemNumbers 1 room s rest

/-- Are members taken from the head of a text, up to the end of their object? -/
def TakesMembers (room : Nat) (s rest : List Char) : Prop :=
  Takes readMembers memberNumbers 1 room s rest

/-- Does a text go on behind an item or a member with the closing bracket, or with a comma and more
of them? -/
inductive GoesOn (close : Char) (more : List Char → Prop) (rest s : List Char) : Prop where
  | closed (hends : Ends s) (hbehind : IsBehind (close :: rest) s)
      (h : skipBlanks s = close :: rest) : GoesOn close more rest s
  | comma {next : List Char} (hends : Ends s) (hbehind : IsBehind (',' :: next) s)
      (h : skipBlanks s = ',' :: next) (hmore : more next) : GoesOn close more rest s

lemma GoesOn.ends {close : Char} {more : List Char → Prop} (h : GoesOn close more rest s) :
    Ends s := by
  cases h with
  | closed hends _ _ => exact hends
  | comma hends _ _ _ => exact hends

/-- What is taken from a text is taken from it behind blanks. -/
lemma Takes.of_skipBlanks {γ : Type}
    {read : (fuel room : Nat) → List Char → Option (γ × List Char)} {numbers : γ → List Number}
    {steps room : Nat}
    (hread : ∀ fuel room s, read fuel room (Json.skipBlanks s) = read fuel room s)
    (h : Takes read numbers steps room (Json.skipBlanks s) rest) :
    Takes read numbers steps room s rest := by
  obtain ⟨hbehind, x, hx, htakes⟩ := h
  have hle := (isBehind_skipBlanks s).length_le
  refine ⟨hbehind.trans (isBehind_skipBlanks s), x, hx, fun hf hr => ?_⟩
  rw [← hread]
  exact htakes (by omega) hr

variable {room : Nat}

lemma readItems_skipBlanks (fuel room : Nat) (s : List Char) :
    readItems fuel room (Json.skipBlanks s) = readItems fuel room s := by
  cases fuel with
  | zero => rfl
  | succ fuel =>
      rw [readItems.eq_def, readItems.eq_def]
      simp only [skipBlanks_skipBlanks]

lemma readMembers_skipBlanks (fuel room : Nat) (s : List Char) :
    readMembers fuel room (Json.skipBlanks s) = readMembers fuel room s := by
  cases fuel with
  | zero => rfl
  | succ fuel =>
      rw [readMembers.eq_def, readMembers.eq_def]
      simp only [skipBlanks_skipBlanks]

lemma readValue_skipBlanks (fuel room : Nat) (s : List Char) :
    readValue fuel room (Json.skipBlanks s) = readValue fuel room s := by
  cases fuel with
  | zero => rfl
  | succ fuel =>
      rw [readValue.eq_def, readValue.eq_def]
      simp only [skipBlanks_skipBlanks]

/-- A scalar is taken if one step is enough for it. -/
lemma takesValue_scalar {c : Char} {j : Json5} (hbehind : IsBehind rest (c :: s))
    (hj : ∀ n ∈ j.numbers, n.FitsWord)
    (h : ∀ fuel room, readValue (fuel + 1) room (c :: s) = some (j, rest)) :
    TakesValue room (c :: s) rest := by
  refine ⟨hbehind, j, hj, fun {fuel room'} hf _ => ?_⟩
  obtain ⟨fuel, rfl⟩ : ∃ n, fuel = n + 1 := ⟨fuel - 1, by simp at hf; omega⟩
  exact h fuel room'

/-- A string of JSON is taken. -/
lemma takesValue_of_readString (room : Nat) {r cs : List Char}
    (h : Json.readString r = .ok (cs, rest)) : TakesValue room ('"' :: r) rest := by
  obtain ⟨hbehind, q, hq⟩ := readsTo_of_readString h
  refine takesValue_scalar (j := .string q) (hbehind.cons (by decide)) (by simp [numbers])
    fun fuel room => ?_
  rw [readValue_scalar (by decide) (by decide) (by decide), readString?, if_pos (.inl rfl), hq]

/-- A number of JSON is taken, with what ends a number behind it. -/
lemma takesValue_of_read (room : Nat) {c : Char} {r : List Char} {n : Json.NumberText}
    (hc : (c = '-' || c.isDigit) = true) (h : Json.NumberText.read (c :: r) = .ok (n, rest))
    (hends : Ends rest) : TakesValue room (c :: r) rest := by
  obtain ⟨hstart, hquote, happ, hbracket, hbrace⟩ := isStart_of_numeral hc
  obtain ⟨hbehind, raw, hraw⟩ := exists_read?_of_read h hends
  have hfits : ∀ x ∈ numbers (.number (.decimal raw)), x.FitsWord := by
    intro x hx
    cases List.mem_singleton.mp hx
    trivial
  have hstring : readString? (c :: r) = none := by
    rw [readString?, if_neg (by simp [hquote, happ])]
  refine takesValue_scalar hbehind hfits fun fuel room => ?_
  rw [readValue_scalar hstart hbracket hbrace, hstring, readWord?_of_numeral hc, hraw]
  rfl

/-- An array is taken if its items are. -/
lemma takesValue_bracket (h : TakesItems room s rest) : TakesValue (room + 1) ('[' :: s) rest := by
  obtain ⟨hbehind, items, hitems, hread⟩ := h
  refine ⟨hbehind.cons (by decide), .array items, hitems, fun {fuel room'} hf hr => ?_⟩
  rw [List.length_cons] at hf
  obtain ⟨fuel, rfl⟩ : ∃ n, fuel = n + 1 := ⟨fuel - 1, by omega⟩
  obtain ⟨room', rfl⟩ : ∃ n, room' = n + 1 := ⟨room' - 1, by omega⟩
  rw [readValue_bracket, hread (by omega) (by omega)]
  rfl

/-- An object is taken if its members are. -/
lemma takesValue_brace (h : TakesMembers room s rest) :
    TakesValue (room + 1) ('\x7b' :: s) rest := by
  obtain ⟨hbehind, members, hmembers, hread⟩ := h
  refine ⟨hbehind.cons (by decide), .object members, hmembers, fun {fuel room'} hf hr => ?_⟩
  rw [List.length_cons] at hf
  obtain ⟨fuel, rfl⟩ : ∃ n, fuel = n + 1 := ⟨fuel - 1, by omega⟩
  obtain ⟨room', rfl⟩ : ∃ n, room' = n + 1 := ⟨room' - 1, by omega⟩
  rw [readValue_brace, hread (by omega) (by omega)]
  rfl

/-- An array without items ends at once. -/
lemma takesItems_nil (room : Nat) (rest : List Char) : TakesItems room (']' :: rest) rest := by
  refine ⟨(IsBehind.refl rest).cons (by decide), [], (by simp [itemNumbers]),
    fun {fuel _} hf _ => ?_⟩
  obtain ⟨fuel, rfl⟩ : ∃ n, fuel = n + 1 := ⟨fuel - 1, by omega⟩
  have hskip := skipBlanks_cons (c := ']') rfl (by decide) rest
  rw [readItems.eq_def]
  simp only [hskip]

/-- An object without members ends at once. -/
lemma takesMembers_nil (room : Nat) (rest : List Char) :
    TakesMembers room ('\x7d' :: rest) rest := by
  refine ⟨(IsBehind.refl rest).cons (by decide), [], (by simp [memberNumbers]),
    fun {fuel _} hf _ => ?_⟩
  obtain ⟨fuel, rfl⟩ : ∃ n, fuel = n + 1 := ⟨fuel - 1, by omega⟩
  have hskip := skipBlanks_cons (c := '\x7d') rfl (by decide) rest
  rw [readMembers.eq_def]
  simp only [hskip]

/-- Items are taken if the first one is a value and the text goes on behind it. -/
lemma takesItems_of_value {c : Char} (hc : IsStart c) (hvalue : TakesValue room (c :: s) t)
    (hmore : GoesOn ']' (TakesItems room · rest) rest t) : TakesItems room (c :: s) rest := by
  obtain ⟨hbehind, j, hj, hread⟩ := hvalue
  cases hmore with
  | closed hends hclose h =>
      refine ⟨(IsBehind.cons (by decide) (.refl rest)).trans (hclose.trans hbehind), [j],
        by simpa [itemNumbers] using hj, fun {fuel room'} hf hr => ?_⟩
      obtain ⟨fuel, rfl⟩ : ∃ n, fuel = n + 1 := ⟨fuel - 1, by omega⟩
      exact readItems_last hc (hread (by omega) hr) h
  | @comma next hends hcomma h hmore =>
      obtain ⟨hrest, js, hjs, hitems⟩ := hmore
      have hnext := (hcomma.trans hbehind).length_le
      rw [List.length_cons] at hnext
      refine ⟨(hrest.cons (by decide)).trans (hcomma.trans hbehind), j :: js, ?_,
        fun {fuel room'} hf hr => ?_⟩
      · rw [itemNumbers, List.forall_mem_append]
        exact ⟨hj, hjs⟩
      · obtain ⟨fuel, rfl⟩ : ∃ n, fuel = n + 1 := ⟨fuel - 1, by omega⟩
        exact readItems_comma hc (hread (by omega) hr) h (hitems (by omega) hr)

/-- Members are taken if the first one has a key and a value and the text goes on behind it. -/
lemma takesMembers_of_value {u v : List Char} (hkey : ReadsTo s t)
    (hcolon : skipBlanks t = ':' :: u)
    (hu : IsBehind (':' :: u) t) (hvalue : TakesValue room u v)
    (hmore : GoesOn '\x7d' (TakesMembers room · rest) rest v) :
    TakesMembers room ('"' :: s) rest := by
  obtain ⟨ht, q, hq⟩ := hkey
  obtain ⟨hv, j, hj, hread⟩ := hvalue
  have hbehind : IsBehind v ('"' :: s) :=
    (hv.cons (by decide)).trans (hu.trans (ht.cons (by decide)))
  have hlength := (hu.trans ht).length_le
  rw [List.length_cons] at hlength
  cases hmore with
  | closed hends hclose h =>
      refine ⟨(IsBehind.cons (by decide) (.refl rest)).trans (hclose.trans hbehind), [(q, j)],
        by simpa [memberNumbers] using hj, fun {fuel room'} hf hr => ?_⟩
      rw [List.length_cons] at hf
      obtain ⟨fuel, rfl⟩ : ∃ n, fuel = n + 1 := ⟨fuel - 1, by omega⟩
      exact readMembers_last hq hcolon (hread (by omega) hr) h
  | @comma next hends hcomma h hmore =>
      obtain ⟨hrest, js, hjs, hmembers⟩ := hmore
      have hnext := (hcomma.trans hv).length_le
      rw [List.length_cons] at hnext
      refine ⟨(hrest.cons (by decide)).trans (hcomma.trans hbehind), (q, j) :: js, ?_,
        fun {fuel room'} hf hr => ?_⟩
      · rw [memberNumbers, List.forall_mem_append]
        exact ⟨hj, hjs⟩
      · rw [List.length_cons] at hf
        obtain ⟨fuel, rfl⟩ : ∃ n, fuel = n + 1 := ⟨fuel - 1, by omega⟩
        exact readMembers_comma hq hcolon (hread (by omega) hr) h (hmembers (by omega) hr)

/-! ### Documents -/

open Json (Document)
open Json.Decoder (asJson asItems asMembers)

/-- Whatever a reader of JSON with some fuel reads without a fault is taken: a value, items from the
first one on, those behind one, an item and those behind it, and the same of members. -/
structure TakesJson (fuel : Nat) : Prop where
  value {room : Nat} {s : List Char} {d : Document} {rest? : Option (List Char)} {j : Json}
    (h : Document.readValue fuel room s = (d, rest?)) (hj : asJson d = .ok j) :
    ∃ rest c r, rest? = some rest ∧ Json.skipBlanks s = c :: r ∧ IsStart c ∧
      (Ends rest → TakesValue room (c :: r) rest)
  first {room : Nat} {s : List Char} {ds : List Document} {rest? : Option (List Char)}
    {js : List Json} (h : Document.readItems fuel room true s = (ds, .closed, rest?))
    (hjs : asItems ds = .ok js) : ∃ rest, rest? = some rest ∧ TakesItems room s rest
  more {room : Nat} {s : List Char} {ds : List Document} {rest? : Option (List Char)}
    {js : List Json} (h : Document.readItems fuel room false s = (ds, .closed, rest?))
    (hjs : asItems ds = .ok js) :
    ∃ rest, rest? = some rest ∧ GoesOn ']' (TakesItems room · rest) rest s
  item {room : Nat} {s : List Char} {ds : List Document} {rest? : Option (List Char)}
    {js : List Json} (h : Document.readItem fuel room s = (ds, .closed, rest?))
    (hjs : asItems ds = .ok js) : ∃ rest, rest? = some rest ∧ TakesItems room s rest
  firstMember {room : Nat} {s : List Char} {ms : List Document.Member}
    {rest? : Option (List Char)} {js : List (String × Json)}
    (h : Document.readMembers fuel room true s = (ms, .closed, rest?))
    (hjs : asMembers ms = .ok js) : ∃ rest, rest? = some rest ∧ TakesMembers room s rest
  moreMembers {room : Nat} {s : List Char} {ms : List Document.Member}
    {rest? : Option (List Char)} {js : List (String × Json)}
    (h : Document.readMembers fuel room false s = (ms, .closed, rest?))
    (hjs : asMembers ms = .ok js) :
    ∃ rest, rest? = some rest ∧ GoesOn '\x7d' (TakesMembers room · rest) rest s
  member {room : Nat} {s : List Char} {ms : List Document.Member}
    {rest? : Option (List Char)} {js : List (String × Json)}
    (h : Document.readMember fuel room s = (ms, .closed, rest?))
    (hjs : asMembers ms = .ok js) :
    ∃ rest, rest? = some rest ∧ TakesMembers room ('"' :: s) rest

namespace TakesJson

variable {fuel : Nat} {rest? : Option (List Char)}

/-- A word of JSON is taken. -/
lemma of_ofWord (room : Nat) (c : Char) (value : Json5) {word r : List Char} {d d' : Document}
    {j : Json}
    (h : Document.ofWord d (Json.expectWord word r) = (d', rest?)) (hj : asJson d' = .ok j)
    (hc : IsStart c ∧ c ≠ '"' ∧ c ≠ '\'' ∧ c ≠ '[' ∧ c ≠ '\x7b')
    (hnul : '\x00' ∉ c :: word) (hvalue : ∀ n ∈ value.numbers, n.FitsWord)
    (hread : ∀ {rest}, Ends rest → readWord? (c :: word ++ rest) = some (value, rest)) :
    ∃ rest, rest? = some rest ∧ (Ends rest → TakesValue room (c :: r) rest) := by
  cases hw : Json.expectWord word r with
  | error f =>
      rw [hw] at h
      cases h
      cases hj
  | ok rest =>
      rw [hw] at h
      cases h
      -- what was expected is what was read, and blanks are not skipped inside a word
      have hr := eq_append_of_expectWord hw
      subst hr
      refine ⟨rest, rfl, fun hends => takesValue_scalar ?_ hvalue fun fuel room => ?_⟩
      · have hbehind := (IsBehind.refl rest).append hnul
        exact hbehind
      · exact readValue_of_readWord? hc (hread hends)

/-- A value is a word, a string or a number, or made of items or members. -/
lemma value_succ (ih : TakesJson fuel) {d : Document} {j : Json}
    (h : Document.readValue (fuel + 1) room s = (d, rest?)) (hj : asJson d = .ok j) :
    ∃ rest c r, rest? = some rest ∧ Json.skipBlanks s = c :: r ∧ IsStart c ∧
      (Ends rest → TakesValue room (c :: r) rest) := by
  rw [Document.readValue] at h
  split at h
  · cases h
    cases hj
  -- the three words
  · next r hs =>
    obtain ⟨rest, hrest, htakes⟩ := of_ofWord room 'n' .null h hj (by decide) (by decide)
      (by simp [numbers]) fun hends => (readWord?_word hends).1
    exact ⟨rest, 'n', r, hrest, hs, by decide, htakes⟩
  · next r hs =>
    obtain ⟨rest, hrest, htakes⟩ := of_ofWord room 't' (.bool true) h hj (by decide)
      (by decide) (by simp [numbers]) fun hends => (readWord?_word hends).2.1
    exact ⟨rest, 't', r, hrest, hs, by decide, htakes⟩
  · next r hs =>
    obtain ⟨rest, hrest, htakes⟩ := of_ofWord room 'f' (.bool false) h hj (by decide)
      (by decide) (by simp [numbers]) fun hends => (readWord?_word hends).2.2
    exact ⟨rest, 'f', r, hrest, hs, by decide, htakes⟩
  -- a string
  · next r hs =>
    split at h
    · next cs rest hr =>
      cases h
      exact ⟨rest, '"', r, rfl, hs, by decide, fun _ => takesValue_of_readString room hr⟩
    · cases h
      cases hj
  -- an array, which takes room
  · next r hs =>
    cases room with
    | zero =>
        cases h
        cases hj
    | succ room =>
        obtain ⟨rfl, rfl⟩ := Prod.mk.inj h
        rw [asJson] at hj
        obtain ⟨js, hjs, hj⟩ := Except.bind_eq_ok.mp hj
        obtain ⟨u, hu, -⟩ := Except.bind_eq_ok.mp hj
        have hstop := Json.Decoder.eq_closed_of_raise? hu
        obtain ⟨rest, hrest, htakes⟩ := ih.first (Prod.ext rfl (Prod.ext hstop rfl)) hjs
        exact ⟨rest, '[', r, hrest, hs, by decide, fun _ => takesValue_bracket htakes⟩
  -- an object, which takes room
  · next r hs =>
    cases room with
    | zero =>
        cases h
        cases hj
    | succ room =>
        obtain ⟨rfl, rfl⟩ := Prod.mk.inj h
        rw [asJson] at hj
        obtain ⟨js, hjs, hj⟩ := Except.bind_eq_ok.mp hj
        obtain ⟨u, hu, -⟩ := Except.bind_eq_ok.mp hj
        have hstop := Json.Decoder.closed_of_raise? hu
        obtain ⟨rest, hrest, htakes⟩ := ih.firstMember (Prod.ext rfl (Prod.ext hstop rfl)) hjs
        exact ⟨rest, '\x7b', r, hrest, hs, by decide, fun _ => takesValue_brace htakes⟩
  -- a number, if it is anything
  · next c r _ _ _ _ _ _ hs =>
    split at h
    · next hc =>
      split at h
      · next n rest hn =>
        split at h
        · cases h
          exact ⟨rest, c, r, rfl, hs, (isStart_of_numeral hc).1, takesValue_of_read room hc hn⟩
        · cases h
          cases hj
      · cases h
        cases hj
    · cases h
      cases hj

section Items

variable {ds : List Document} {js : List Json}

/-- The items of an array start with its end, or with an item. -/
lemma first_succ (ih : TakesJson fuel)
    (h : Document.readItems (fuel + 1) room true s = (ds, .closed, rest?))
    (hjs : asItems ds = .ok js) : ∃ rest, rest? = some rest ∧ TakesItems room s rest := by
  rw [Document.readItems] at h
  split at h
  · cases h
  · next r hs =>
    cases h
    exact ⟨r, rfl, .of_skipBlanks readItems_skipBlanks (hs ▸ takesItems_nil room r)⟩
  · next c r _ hs =>
    obtain ⟨rest, hrest, htakes⟩ := ih.item h hjs
    exact ⟨rest, hrest, .of_skipBlanks readItems_skipBlanks (hs ▸ htakes)⟩

/-- Behind an item stands the end of the array, or a comma and one more item. -/
lemma more_succ (ih : TakesJson fuel)
    (h : Document.readItems (fuel + 1) room false s = (ds, .closed, rest?))
    (hjs : asItems ds = .ok js) :
    ∃ rest, rest? = some rest ∧ GoesOn ']' (TakesItems room · rest) rest s := by
  have hbehind := isBehind_skipBlanks s
  rw [Document.readItems] at h
  split at h
  · cases h
  -- the end of the array
  · next r hs =>
    cases h
    have hends : Ends (Json.skipBlanks s) := hs ▸ ends_of_mem (by simp) r
    exact ⟨r, rfl, .closed (ends_of_skipBlanks hends) (hs ▸ hbehind)
      (skipBlanks_of_json hs rfl (by decide))⟩
  -- a comma, or nothing that goes on
  · next c r _ hs =>
    rw [if_neg (by decide)] at h
    split at h
    · next hc =>
      subst hc
      have hends : Ends (Json.skipBlanks s) := hs ▸ ends_of_mem (by simp) r
      have hskip := skipBlanks_of_json hs rfl (by decide)
      split at h
      · cases h
      · cases h
      · obtain ⟨rest, hrest, htakes⟩ := ih.item h hjs
        exact ⟨rest, hrest, .comma (ends_of_skipBlanks hends) (hs ▸ hbehind) hskip
          (.of_skipBlanks readItems_skipBlanks htakes)⟩
    · cases h

/-- An item is a value, and the text goes on behind it. -/
lemma item_succ (ih : TakesJson fuel)
    (h : Document.readItem (fuel + 1) room s = (ds, .closed, rest?))
    (hjs : asItems ds = .ok js) : ∃ rest, rest? = some rest ∧ TakesItems room s rest := by
  rw [Document.readItem] at h
  split at h
  · cases h
  · next d t hvalue =>
    obtain ⟨rfl, hmore⟩ := Prod.mk.inj h
    rw [asItems] at hjs
    obtain ⟨j, hj, hjs⟩ := Except.bind_eq_ok.mp hjs
    obtain ⟨js', hjs', -⟩ := Except.bind_eq_ok.mp hjs
    obtain ⟨hstop, hrest⟩ := Prod.mk.inj hmore
    obtain ⟨t', c, r, ht, hs, hstart, htakes⟩ := ih.value hvalue hj
    cases ht
    obtain ⟨rest, hrest', hgoes⟩ := ih.more (Prod.ext rfl (Prod.ext hstop hrest)) hjs'
    exact ⟨rest, hrest', .of_skipBlanks readItems_skipBlanks
      (hs ▸ takesItems_of_value hstart (htakes hgoes.ends) hgoes)⟩

end Items

section Members

variable {ms : List Document.Member} {js : List (String × Json)}

/-- The members of an object start with its end, or with a member. -/
lemma firstMember_succ (ih : TakesJson fuel)
    (h : Document.readMembers (fuel + 1) room true s = (ms, .closed, rest?))
    (hjs : asMembers ms = .ok js) : ∃ rest, rest? = some rest ∧ TakesMembers room s rest := by
  rw [Document.readMembers] at h
  split at h
  · cases h
  · next r hs =>
    cases h
    exact ⟨r, rfl, .of_skipBlanks readMembers_skipBlanks (hs ▸ takesMembers_nil room r)⟩
  · next c r _ hs =>
    rw [if_pos rfl] at h
    split at h
    · next hc =>
      subst hc
      obtain ⟨rest, hrest, htakes⟩ := ih.member h hjs
      exact ⟨rest, hrest, .of_skipBlanks readMembers_skipBlanks (hs ▸ htakes)⟩
    · cases h

/-- Behind a member stands the end of the object, or a comma and one more member. -/
lemma moreMembers_succ (ih : TakesJson fuel)
    (h : Document.readMembers (fuel + 1) room false s = (ms, .closed, rest?))
    (hjs : asMembers ms = .ok js) :
    ∃ rest, rest? = some rest ∧ GoesOn '\x7d' (TakesMembers room · rest) rest s := by
  have hbehind := isBehind_skipBlanks s
  rw [Document.readMembers] at h
  split at h
  · cases h
  -- the end of the object
  · next r hs =>
    cases h
    have hends : Ends (Json.skipBlanks s) := hs ▸ ends_of_mem (by simp) r
    exact ⟨r, rfl, .closed (ends_of_skipBlanks hends) (hs ▸ hbehind)
      (skipBlanks_of_json hs rfl (by decide))⟩
  -- a comma, or nothing that goes on
  · next c r _ hs =>
    rw [if_neg (by decide)] at h
    split at h
    · next hc =>
      subst hc
      have hends : Ends (Json.skipBlanks s) := hs ▸ ends_of_mem (by simp) r
      have hskip := skipBlanks_of_json hs rfl (by decide)
      split at h
      · cases h
      · cases h
      · next r' hr =>
        obtain ⟨rest, hrest, htakes⟩ := ih.member h hjs
        exact ⟨rest, hrest, .comma (ends_of_skipBlanks hends) (hs ▸ hbehind) hskip
          (.of_skipBlanks readMembers_skipBlanks (hr ▸ htakes))⟩
      · cases h
    · cases h

/-- A member is a key, a colon and a value, and the text goes on behind it. -/
lemma member_succ (ih : TakesJson fuel)
    (h : Document.readMember (fuel + 1) room s = (ms, .closed, rest?))
    (hjs : asMembers ms = .ok js) :
    ∃ rest, rest? = some rest ∧ TakesMembers room ('"' :: s) rest := by
  rw [Document.readMember] at h
  split at h
  · cases h
  · next key t hkey =>
    dsimp only at h
    split at h
    · cases h
    · next u ht =>
      split at h
      · cases h
      · next v hnext =>
        obtain ⟨rfl, hmore⟩ := Prod.mk.inj h
        rw [asMembers] at hjs
        obtain ⟨j, hj, hjs⟩ := Except.bind_eq_ok.mp hjs
        obtain ⟨js', hjs', -⟩ := Except.bind_eq_ok.mp hjs
        obtain ⟨hstop, hrest⟩ := Prod.mk.inj hmore
        obtain ⟨v', c, r, hv, hs, -, htakes⟩ := ih.value (Prod.ext rfl rfl) hj
        rw [hv] at hnext
        cases hnext
        -- the value ends where the text goes on behind the member
        obtain ⟨rest, hrest', hgoes⟩ := ih.moreMembers (Prod.ext rfl (Prod.ext hstop hrest)) hjs'
        refine ⟨rest, hrest', takesMembers_of_value (readsTo_of_readString hkey)
          (skipBlanks_of_json ht rfl (by decide)) (ht ▸ isBehind_skipBlanks t)
          (.of_skipBlanks readValue_skipBlanks ?_) hgoes⟩
        exact hs ▸ htakes hgoes.ends
    · cases h

end Members

end TakesJson

/-- Whatever is read of JSON without a fault is taken. -/
theorem takesJson (fuel : Nat) : TakesJson fuel := by
  induction fuel with
  | zero =>
      -- without fuel nothing is read
      constructor
      · intro _ _ _ _ _ h hj
        rw [Document.readValue] at h
        cases h
        cases hj
      · intro _ _ _ _ _ h
        rw [Document.readItems] at h
        cases h
      · intro _ _ _ _ _ h
        rw [Document.readItems] at h
        cases h
      · intro _ _ _ _ _ h
        rw [Document.readItem] at h
        cases h
      · intro _ _ _ _ _ h
        rw [Document.readMembers] at h
        cases h
      · intro _ _ _ _ _ h
        rw [Document.readMembers] at h
        cases h
      · intro _ _ _ _ _ h
        rw [Document.readMember] at h
        cases h
  | succ fuel ih =>
      exact ⟨ih.value_succ, ih.first_succ, ih.more_succ, ih.item_succ, ih.firstMember_succ,
        ih.moreMembers_succ, ih.member_succ⟩

/-- A document of JSON that is read without a fault is well-formed. -/
theorem isWellFormed_of_read {text : String} {j : Json} (hsurplus : (Document.read text).2 = none)
    (hj : asJson (Document.read text).1 = .ok j) : IsWellFormed text := by
  obtain ⟨rest, c, r, hrest, hs, -, htakes⟩ :=
    (takesJson _).value (Prod.eta (Document.readValue (3 * text.toList.length + 3)
      Json.maxDepth text.toList)).symm hj
  -- what is left of the text are blanks
  have hblank : Json.skipBlanks rest = [] := by
    simp only [Document.read, Document.readChars, hrest] at hsurplus
    simpa using hsurplus
  have hends : Ends rest := ends_of_skipBlanks (hblank ▸ fun c hc => by cases hc)
  obtain ⟨hbehind, value, hfits, hread⟩ :=
    Takes.of_skipBlanks (s := text.toList) readValue_skipBlanks (hs ▸ htakes hends)
  obtain ⟨read, htext, hnul⟩ := (hblank ▸ isBehind_skipBlanks rest).trans hbehind
  rw [List.append_nil] at htext
  have hwhole : text.toList.takeWhile (· ≠ '\x00') = text.toList := by
    refine List.takeWhile_eq_self_iff.mpr fun c hc => decide_eq_true ?_
    rintro rfl
    exact hnul (htext ▸ hc)
  refine ⟨value, ?_, hfits⟩
  have hskip : skipBlanks rest = [] := by
    rw [← skipBlanks_skipBlanks, hblank]
    rfl
  rw [ofText?, hwhole]
  have hvalue : readValue (2 * text.toList.length + 2) maxDepth text.toList = some (value, rest) :=
    hread (by omega) (by decide)
  simp only [hvalue, bind, Option.bind, hskip]
  rfl

/-- A text is well-formed if something is read from it that only documents without a fault give. -/
theorem isWellFormed_of_ofText {α : Type} {decode : Json.Decoder α} {text : String} {a : α}
    (hdecode : ∀ d a, decode .text d = .ok a → ∃ j, asJson d = .ok j)
    (h : Json.Decoder.ofText decode text = .ok a) : IsWellFormed text := by
  obtain ⟨a', ha, h⟩ := Except.bind_eq_ok.mp h
  obtain ⟨u, hu, -⟩ := Except.bind_eq_ok.mp h
  obtain ⟨j, hj⟩ := hdecode _ a' ha
  change Json.Decoder.raise? (Document.read text).2 = .ok u at hu
  refine isWellFormed_of_read ?_ hj
  generalize (Document.read text).2 = surplus at hu
  cases surplus with
  | none => rfl
  | some f => cases hu

lemma exists_asJson_of_value (d : Document) (v : Json.Value)
    (h : Json.Decoder.value .text d = .ok v) : ∃ j, asJson d = .ok j := by
  obtain ⟨j, hj, -⟩ := Except.map_eq_ok.mp h
  exact ⟨j, hj⟩

/-- Any object has no fault where it is read. -/
lemma exists_asJson_of_members (d : Document) (ms : Json.Members)
    (h : Json.Decoder.members .text d = .ok ms) : ∃ j, asJson d = .ok j := by
  cases d with
  | object members stop =>
      obtain ⟨js, hjs, h⟩ := Except.bind_eq_ok.mp h
      obtain ⟨u, hu, -⟩ := Except.bind_eq_ok.mp h
      refine ⟨.object js, ?_⟩
      rw [asJson, hjs]
      cases Json.Decoder.closed_of_raise? hu
      rfl
  | _ => cases h

end LeasedStore.Json5
