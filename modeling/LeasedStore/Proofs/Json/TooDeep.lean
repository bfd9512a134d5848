/-
Documents that are nested too deep.

A text is written however deep its document is, but it is not read where more arrays and objects are
nested than there is room for.  The reader gets as far as the first value that is too deep; what it
makes of that one is a document with a fault, and so whoever wants the value fails.  Hence what is
read at all from the text of a document is no deeper than there is room, and is read as it was
written.

* `Document.IsFaulty`: is a document read as no value?
* `isFaulty_readValue`: a document that is too deep is read as a faulty one;
* `exists_faulty_item`, `exists_faulty_member`: one of the items of an array, or of the members of
  an object, is faulty where one is too deep;
* `Record.Wants`: does a record fail where a member of a name is faulty?
* `Decoder.depth_le_of_ofText`: the depth of a document from whose text a record is read.
-/
import LeasedStore.Proofs.Json.Decoding
import LeasedStore.Proofs.Json.Depth

namespace LeasedStore.Json

namespace Document

open Decoder

/-- Is a document read as no value? -/
def IsFaulty (d : Document) : Prop := ∀ j, asJson d ≠ .ok j

/-- An array with a faulty item is faulty. -/
lemma isFaulty_array {items : List Document} {stop : ArrayEnd} {d : Document} (hd : d.IsFaulty)
    (h : d ∈ items) : (Document.array items stop).IsFaulty := by
  have hitems : ∀ js, asItems items ≠ .ok js := by
    induction items with
    | nil => cases h
    | cons d' rest ih =>
        intro js hjs
        rw [asItems] at hjs
        obtain ⟨j, hj, hjs⟩ := Except.bind_eq_ok.mp hjs
        obtain ⟨js, hrest, -⟩ := Except.bind_eq_ok.mp hjs
        rcases List.mem_cons.mp h with rfl | h
        · exact hd j hj
        · exact ih h js hrest
  intro j hj
  rw [asJson] at hj
  obtain ⟨js, hjs, -⟩ := Except.bind_eq_ok.mp hj
  exact hitems js hjs

/-- An object with a faulty member is faulty. -/
lemma isFaulty_object {members : List Member} {stop : ObjectEnd} {key : String} {d : Document}
    {gap : Option Fault} (hd : d.IsFaulty) (h : (key, d, gap) ∈ members) :
    (Document.object members stop).IsFaulty := by
  have hmembers : ∀ ms, asMembers members ≠ .ok ms := by
    induction members with
    | nil => cases h
    | cons m rest ih =>
        intro ms hms
        obtain ⟨key', d', gap'⟩ := m
        rw [asMembers] at hms
        obtain ⟨j, hj, hms⟩ := Except.bind_eq_ok.mp hms
        obtain ⟨ms, hrest, -⟩ := Except.bind_eq_ok.mp hms
        rcases List.mem_cons.mp h with heq | h
        · cases heq
          exact hd j hj
        · exact ih h ms hrest
  intro j hj
  rw [asJson] at hj
  obtain ⟨ms, hms, -⟩ := Except.bind_eq_ok.mp hj
  exact hmembers ms hms

variable {fuel room : ℕ}

/-- The first item that is read. -/
lemma exists_readItem (fuel room : ℕ) (s : List Char) :
    ∃ more, (readItem (fuel + 1) room s).1 = (readValue fuel room s).1 :: more := by
  rw [readItem]
  rcases readValue fuel room s with ⟨d, _ | next⟩
  · exact ⟨[], rfl⟩
  · exact ⟨_, rfl⟩

/-- The first member that is read. -/
lemma exists_readMember (fuel room : ℕ) {key : String} {body s : List Char}
    (hkey : readString body = .ok (key.toList, ':' :: s)) :
    ∃ gap more, (readMember (fuel + 1) room body).1 =
      (key, (readValue fuel room s).1, gap) :: more := by
  rw [readMember, hkey]
  dsimp only
  rw [skipBlanks_cons rfl, String.ofList_toList]
  split
  · next h => cases h
  · next h =>
    cases h
    split
    · exact ⟨_, _, rfl⟩
    · exact ⟨_, _, rfl⟩
  · next h => exact absurd rfl (h s)

/-- A faulty item is among those that are read: the first one, or one of those behind it. -/
lemma exists_faulty_readItem {item : Json} {next : List Char}
    (hitem : room < item.depth →
      (readValue fuel room (chars item ++ next)).1.IsFaulty)
    (hfits : item.depth ≤ room →
      readValue fuel room (chars item ++ next) = (ofJson item, some next))
    (hrest : item.depth ≤ room → ∃ d ∈ (readItems fuel room false next).1, d.IsFaulty) :
    ∃ d ∈ (readItem (fuel + 1) room (chars item ++ next)).1, d.IsFaulty := by
  rcases Nat.lt_or_ge room item.depth with hdeep | hle
  · obtain ⟨more, hmore⟩ := exists_readItem fuel room (chars item ++ next)
    rw [hmore]
    exact ⟨_, List.mem_cons_self .., hitem hdeep⟩
  · obtain ⟨d, hd, hfaulty⟩ := hrest hle
    rw [readItem, hfits hle]
    exact ⟨d, List.mem_cons_of_mem _ hd, hfaulty⟩

/-- Is a member among some members that is read as a faulty one, as it is too deep? -/
def HasFaulty (room : ℕ) (ms : List (String × Json)) (members : List Member) : Prop :=
  ∃ key j, (key, j) ∈ ms ∧ room < j.depth ∧ ∃ d gap, (key, d, gap) ∈ members ∧ d.IsFaulty

/-- A faulty member is among those that are read: the first one, or one of those behind it. -/
lemma hasFaulty_readMember {key : String} {value : Json} {ms : List (String × Json)}
    {body next : List Char}
    (hkey : readString body = .ok (key.toList, ':' :: (chars value ++ next)))
    (hvalue : room < value.depth → (readValue fuel room (chars value ++ next)).1.IsFaulty)
    (hfits : value.depth ≤ room →
      readValue fuel room (chars value ++ next) = (ofJson value, some next))
    (hrest : value.depth ≤ room → HasFaulty room ms (readMembers fuel room false next).1) :
    HasFaulty room ((key, value) :: ms) (readMember (fuel + 1) room body).1 := by
  rcases Nat.lt_or_ge room value.depth with hdeep | hle
  · obtain ⟨gap, more, hmore⟩ := exists_readMember fuel room hkey
    rw [hmore]
    exact ⟨key, value, List.mem_cons_self .., hdeep, _, gap, List.mem_cons_self .., hvalue hdeep⟩
  · obtain ⟨key', j, hj, hdeep, d, gap, hd, hfaulty⟩ := hrest hle
    rw [readMember, hkey]
    dsimp only
    rw [skipBlanks_cons rfl]
    simp only [hfits hle]
    exact ⟨key', j, List.mem_cons_of_mem _ hj, hdeep, d, gap, List.mem_cons_of_mem _ hd, hfaulty⟩

mutual

/-- A document that is too deep is read as a faulty one. -/
theorem isFaulty_readValue : ∀ (j : Json) {fuel room : ℕ} {rest : List Char}, j.IsIntegral →
    room < j.depth → 3 * (chars j).length ≤ fuel → NumberText.Ends rest →
    (readValue fuel room (chars j ++ rest)).1.IsFaulty
  | .null, _, _, _, _, hd, _, _ => absurd hd (Nat.not_lt_zero _)
  | .bool _, _, _, _, _, hd, _, _ => absurd hd (Nat.not_lt_zero _)
  | .number _, _, _, _, _, hd, _, _ => absurd hd (Nat.not_lt_zero _)
  | .string _, _, _, _, _, hd, _, _ => absurd hd (Nat.not_lt_zero _)
  | .array [], fuel + 1, room + 1, _, _, hd, _, _ =>
    absurd hd (by simp [Json.depth, Json.itemsDepth])
  | .object [], fuel + 1, room + 1, _, _, hd, _, _ =>
    absurd hd (by simp [Json.depth, Json.membersDepth])
  | .array items, fuel + 1, 0, rest, _, _, _, _ => by
      rw [chars]
      simp only [List.cons_append]
      rw [readValue, skipBlanks_cons rfl]
      exact fun j hj => by cases hj
  | .array (item :: items), fuel + 3, room + 1, rest, hi, hd, hf, _ => by
      rw [IsIntegral, AllIntegral] at hi
      rw [Json.depth, Json.itemsDepth] at hd
      rw [chars, itemChars_cons] at hf ⊢
      simp only [List.length_cons, List.length_append, List.length_nil] at hf
      simp only [List.cons_append, List.append_assoc, List.nil_append]
      -- either the first item is too deep, or it is read as it is and another one is too deep
      obtain ⟨d, hmem, hfaulty⟩ := exists_faulty_readItem
        (fun hdeep => @isFaulty_readValue item fuel room _ hi.1 hdeep (by omega)
          (ends_itemTail items rest))
        (fun hle => readValue_chars item hi.1 hle (by omega) (ends_itemTail items rest))
        (fun hle => @exists_faulty_item items fuel room rest hi.2 (by omega) (by omega))
      obtain ⟨c, cs, hcs, hblank, hclose⟩ := exists_chars_eq_cons hi.1
      rw [hcs, List.cons_append] at hmem ⊢
      rw [readValue_bracket, readItems_first hblank hclose]
      exact isFaulty_array hfaulty hmem
  | .object members, fuel + 1, 0, rest, _, _, _, _ => by
      rw [chars]
      simp only [List.cons_append]
      rw [readValue, skipBlanks_cons rfl]
      exact fun j hj => by cases hj
  | .object (member :: members), fuel, room + 1, rest, hi, hd, hf, _ => by
      obtain ⟨read, stop, hread, _, _, -, -, d, gap, hmem, hfaulty⟩ := @hasFaulty_readValue
        (member :: members) fuel room rest hi (Nat.lt_of_succ_lt_succ hd) hf
      rw [hread]
      exact isFaulty_object hfaulty hmem

/-- One of the members of an object is read as a faulty one if one is too deep. -/
theorem hasFaulty_readValue : ∀ (members : List (String × Json)) {fuel room : ℕ}
    {rest : List Char}, MembersIntegral members → room < Json.membersDepth members →
    3 * (chars (.object members)).length ≤ fuel →
    ∃ read stop, (readValue fuel (room + 1) (chars (.object members) ++ rest)).1 =
      .object read stop ∧ HasFaulty room members read
  | (key, value) :: members, fuel + 3, room, rest, hi, hd, hf => by
      rw [MembersIntegral] at hi
      rw [Json.membersDepth] at hd
      rw [chars, memberChars_cons] at hf ⊢
      simp only [List.length_cons, List.length_append, List.length_nil] at hf
      simp only [List.cons_append, List.append_assoc, List.nil_append]
      obtain ⟨body, hbody, hkey⟩ := readString_quoted key
        (':' :: (chars value ++ (memberTail members ++ '\x7d' :: rest)))
      -- the same for the value of the first member
      have hfaulty := hasFaulty_readMember hkey
        (fun hdeep => @isFaulty_readValue value fuel room _ hi.1 hdeep (by omega)
          (ends_memberTail members rest))
        (fun hle => readValue_chars value hi.1 hle (by omega) (ends_memberTail members rest))
        (fun hle => @exists_faulty_member members fuel room rest hi.2 (by omega) (by omega))
      rw [hbody, readValue_brace, readMembers_first]
      exact ⟨_, _, rfl, hfaulty⟩

/-- One of the items behind the first one is read as a faulty one if one is too deep. -/
theorem exists_faulty_item : ∀ (items : List Json) {fuel room : ℕ} {rest : List Char},
    AllIntegral items → room < Json.itemsDepth items → 3 * (itemTail items).length + 2 ≤ fuel →
    ∃ d ∈ (readItems fuel room false (itemTail items ++ ']' :: rest)).1, d.IsFaulty
  | item :: items, fuel + 2, room, rest, hi, hd, hf => by
      rw [AllIntegral] at hi
      rw [Json.itemsDepth] at hd
      rw [itemTail] at hf ⊢
      simp only [List.length_cons, List.length_append] at hf
      simp only [List.cons_append, List.append_assoc]
      have hfaulty := exists_faulty_readItem
        (fun hdeep => @isFaulty_readValue item fuel room _ hi.1 hdeep (by omega)
          (ends_itemTail items rest))
        (fun hle => readValue_chars item hi.1 hle (by omega) (ends_itemTail items rest))
        (fun hle => @exists_faulty_item items fuel room rest hi.2 (by omega) (by omega))
      obtain ⟨c, cs, hcs, hblank, hclose⟩ := exists_chars_eq_cons hi.1
      rw [hcs, List.cons_append] at hfaulty ⊢
      rwa [readItems_comma hblank hclose]

/-- One of the members behind the first one is read as a faulty one if one is too deep. -/
theorem exists_faulty_member : ∀ (members : List (String × Json)) {fuel room : ℕ}
    {rest : List Char}, MembersIntegral members → room < Json.membersDepth members →
    3 * (memberTail members).length + 2 ≤ fuel →
    HasFaulty room members (readMembers fuel room false (memberTail members ++ '\x7d' :: rest)).1
  | (key, value) :: members, fuel + 2, room, rest, hi, hd, hf => by
      rw [MembersIntegral] at hi
      rw [Json.membersDepth] at hd
      rw [memberTail] at hf ⊢
      simp only [List.length_cons, List.length_append] at hf
      simp only [List.cons_append, List.append_assoc]
      obtain ⟨body, hbody, hkey⟩ := readString_quoted key
        (':' :: (chars value ++ (memberTail members ++ '\x7d' :: rest)))
      have hfaulty := hasFaulty_readMember hkey
        (fun hdeep => @isFaulty_readValue value fuel room _ hi.1 hdeep (by omega)
          (ends_memberTail members rest))
        (fun hle => readValue_chars value hi.1 hle (by omega) (ends_memberTail members rest))
        (fun hle => @exists_faulty_member members fuel room rest hi.2 (by omega) (by omega))
      rwa [hbody, readMembers_comma]

end

end Document

/-! ### Decoders -/

/-- A faulty document is no opaque document. -/
lemma Decoder.exists_value_error {d : Document} (h : d.IsFaulty) :
    ∃ f, value .text d = .error f := by
  cases hv : value .text d with
  | error f => exact ⟨f, rfl⟩
  | ok v =>
      obtain ⟨j, hj, -⟩ := Except.map_eq_ok.mp hv
      exact absurd hj (h j)

/-- Neither is it an opaque object. -/
lemma Decoder.exists_members_error {d : Document} (h : d.IsFaulty) :
    ∃ f, members .text d = .error f := by
  cases hm : members .text d with
  | error f => exact ⟨f, rfl⟩
  | ok m =>
      cases d with
      | object read stop =>
          obtain ⟨ms, hms, hm⟩ := Except.bind_eq_ok.mp hm
          obtain ⟨u, hu, -⟩ := Except.bind_eq_ok.mp hm
          refine absurd ?_ (h (.object ms))
          rw [asJson]
          exact Except.bind_eq_ok.mpr ⟨ms, hms, Except.bind_eq_ok.mpr ⟨u, hu, rfl⟩⟩
      | _ => cases hm

section Records

variable {α : Type} {r : Record α} {key : String}

/-- Does a record fail on a member of a name that is read as a faulty document? -/
def Record.Wants (r : Record α) (key : String) : Prop :=
  ∀ d : Document, d.IsFaulty → ∀ state, ∃ f, r.accept .text key d state = some (.error f)

/-- A field is wanted if its decoder fails on whatever is faulty. -/
lemma Record.wants_fieldWith {decode : Decoder α} {absent short : Option α}
    (h : ∀ d : Document, d.IsFaulty → ∃ f, decode .text d = .error f) :
    (fieldWith key decode absent short).Wants key := by
  intro d hd state
  obtain ⟨f, hf⟩ := h d hd
  cases state with
  | none => exact ⟨f, by simp only [fieldWith, if_pos, hf]; rfl⟩
  | some a => exact ⟨.duplicateField key, by simp [fieldWith]⟩

/-- What the first of two records wants, both want. -/
lemma Record.Wants.seq {β : Type} {g : Record (α → β)} (h : g.Wants key) (x : Record α) :
    (g <*> x).Wants key := by
  intro d hd state
  obtain ⟨f, hf⟩ := h d hd state.1
  refine ⟨f, ?_⟩
  change (both (fun g a => g a) g x).accept .text key d state = _
  simp only [both, hf]
  rfl

/-- What the second of two records wants and the first one refuses, both want. -/
lemma Record.Wants.seq_right {β : Type} {g : Record (α → β)} {x : Record α} (h : x.Wants key)
    (hg : g.Refuses key) : (g <*> x).Wants key := by
  intro d hd state
  obtain ⟨f, hf⟩ := h d hd state.2
  refine ⟨f, ?_⟩
  change (both (fun g a => g a) g x).accept .text key d state = _
  simp only [both, hg .text d state.1, hf]
  rfl

/-- A record fails on members one of which it wants and is faulty. -/
lemma Record.Wants.acceptAll_ne_ok (h : r.Wants key) {d : Document} {gap : Option Fault}
    (hd : d.IsFaulty) {ms : List Document.Member} (hmem : (key, d, gap) ∈ ms) (s t : r.State) :
    r.acceptAll .text ms s ≠ .ok t := by
  induction ms generalizing s with
  | nil => cases hmem
  | cons m rest ih =>
      intro ht
      obtain ⟨key', d', gap'⟩ := m
      rw [Record.acceptAll] at ht
      rcases List.mem_cons.mp hmem with heq | hmem
      · cases heq
        obtain ⟨f, hf⟩ := h d hd s
        rw [hf] at ht
        cases ht
      -- a member that the record does not want is passed over, with the state as it was
      · cases hnext : r.accept .text key' d' s with
        | some next =>
            rw [hnext] at ht
            obtain ⟨s', -, ht⟩ := Except.bind_eq_ok.mp ht
            exact ih hmem s' ht
        | none =>
            rw [hnext] at ht
            obtain ⟨-, -, ht⟩ := Except.bind_eq_ok.mp ht
            exact ih hmem s ht

/-- An object from whose text a record is read is not too deep, if the record wants those of its
members that may be. -/
theorem Decoder.depth_le_of_ofText {shape : Record.Shape} {ms : List (String × Json)} {a : α}
    (hi : MembersIntegral ms) (hwants : ∀ m ∈ ms, 1 < m.2.depth → r.Wants m.1)
    (h : ofText (r.decoder shape) (compress (.object ms)) = .ok a) :
    (Json.object ms).depth ≤ maxDepth := by
  by_contra hdeep
  have hlt : 126 < membersDepth ms := by
    rw [depth, maxDepth] at hdeep
    omega
  obtain ⟨read, stop, hread, key, j, hj, hlt, d, gap, hmem, hfaulty⟩ :=
    @Document.hasFaulty_readValue ms _ _ [] hi hlt
      (Nat.le_add_right (3 * (chars (.object ms)).length) 3)
  rw [List.append_nil] at hread
  obtain ⟨b, hb, -⟩ := Except.bind_eq_ok.mp h
  rw [compress, String.toList_ofList, maxDepth, hread] at hb
  obtain ⟨s, hs, -⟩ := Except.bind_eq_ok.mp hb
  exact (hwants _ hj (Nat.lt_trans (by decide) hlt)).acceptAll_ne_ok hfaulty hmem _ s hs

end Records

end LeasedStore.Json
