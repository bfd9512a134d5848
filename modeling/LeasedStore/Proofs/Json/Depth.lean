/-
How deep the values are that are read from a text.

A text is only read where no more arrays and objects are nested than there is room for.  A decoder
may leave out what it reads, but it nests nothing deeper; only the values that it has for missing
fields are its own.  So what is read from a text can be written and is not too deep to be read
again.

* `Document.depth`, `Document.depth_read_le`: a document is no deeper than there was room;
* `depth_canonical_le`: neither is a canonical form deeper than the value;
* `Decoder.Yields`: what a decoder makes of the documents of some depth;
* `Record.Yields`, `Record.yields_fieldWith`, `yields_map`, `yields_seq`: fields one behind the
  other;
* `Decoder.yields_ofText`: what is read from a text.
-/
import Mathlib.Order.MinMax
import LeasedStore.Json.Decoder
import LeasedStore.Proofs.Json.Reading
import LeasedStore.Proofs.Results

namespace LeasedStore.Json

/-! ### Documents that are read -/

namespace Document

mutual

/-- How deep the arrays and objects that are closed are nested in each other. -/
def depth : Document → Nat
  | .array items .closed => itemsDepth items + 1
  | .object members .closed => membersDepth members + 1
  | _ => 0

/-- How deep closed arrays and objects are nested in some items. -/
def itemsDepth : List Document → Nat
  | [] => 0
  | d :: rest => max (depth d) (itemsDepth rest)

/-- How deep closed arrays and objects are nested in the values of some members. -/
def membersDepth : List Member → Nat
  | [] => 0
  | (_, d, _) :: rest => max (depth d) (membersDepth rest)

end

lemma depth_array_le {items : List Document} {room : Nat} (h : itemsDepth items ≤ room)
    (stop : ArrayEnd) : depth (.array items stop) ≤ room + 1 := by
  cases stop with
  | closed => rw [depth]; omega
  | _ => exact Nat.zero_le _

lemma depth_object_le {members : List Member} {room : Nat} (h : membersDepth members ≤ room)
    (stop : ObjectEnd) : depth (.object members stop) ≤ room + 1 := by
  cases stop with
  | closed => rw [depth]; omega
  | _ => exact Nat.zero_le _

lemma depth_ofWord_le (d : Document) (rest : Except Fault.Syntactic (List Char)) :
    (ofWord d rest).1.depth ≤ d.depth := by
  cases rest with
  | ok r => exact le_refl _
  | error f => exact Nat.zero_le _

/-- What is read is no deeper than there is room: a value, the items of an array, an item and those
behind it, the members of an object, and a member and those behind it. -/
structure FitsRoom (fuel : Nat) : Prop where
  value : ∀ room s, (readValue fuel room s).1.depth ≤ room
  items : ∀ room isFirst s, itemsDepth (readItems fuel room isFirst s).1 ≤ room
  item : ∀ room s, itemsDepth (readItem fuel room s).1 ≤ room
  members : ∀ room isFirst s, membersDepth (readMembers fuel room isFirst s).1 ≤ room
  member : ∀ room s, membersDepth (readMember fuel room s).1 ≤ room

namespace FitsRoom

variable {fuel : Nat}

lemma readValue_succ (h : FitsRoom fuel) (room : Nat) (s : List Char) :
    (readValue (fuel + 1) room s).1.depth ≤ room := by
  rw [readValue]
  split
  · exact Nat.zero_le _
  · exact (depth_ofWord_le _ _).trans (Nat.zero_le _)
  · exact (depth_ofWord_le _ _).trans (Nat.zero_le _)
  · exact (depth_ofWord_le _ _).trans (Nat.zero_le _)
  · split <;> exact Nat.zero_le _
  · next r _ =>
      cases room with
      | zero => exact Nat.zero_le _
      | succ room => exact depth_array_le (h.items room true r) _
  · next r _ =>
      cases room with
      | zero => exact Nat.zero_le _
      | succ room => exact depth_object_le (h.members room true r) _
  · split
    · split
      · split <;> exact Nat.zero_le _
      · exact Nat.zero_le _
    · exact Nat.zero_le _

lemma readItems_succ (h : FitsRoom fuel) (room : Nat) (isFirst : Bool) (s : List Char) :
    itemsDepth (readItems (fuel + 1) room isFirst s).1 ≤ room := by
  rw [readItems]
  split
  · exact Nat.zero_le _
  · exact Nat.zero_le _
  · split
    · exact h.item room _
    · split
      · split
        · exact Nat.zero_le _
        · exact Nat.zero_le _
        · exact h.item room _
      · exact Nat.zero_le _

lemma readItem_succ (h : FitsRoom fuel) (room : Nat) (s : List Char) :
    itemsDepth (readItem (fuel + 1) room s).1 ≤ room := by
  have hvalue := h.value room s
  rw [readItem]
  split
  · next d heq =>
      rw [heq] at hvalue
      exact Nat.max_le.mpr ⟨hvalue, Nat.zero_le _⟩
  · next d s' heq =>
      rw [heq] at hvalue
      exact Nat.max_le.mpr ⟨hvalue, h.items room false s'⟩

lemma readMembers_succ (h : FitsRoom fuel) (room : Nat) (isFirst : Bool) (s : List Char) :
    membersDepth (readMembers (fuel + 1) room isFirst s).1 ≤ room := by
  rw [readMembers]
  split
  · exact Nat.zero_le _
  · exact Nat.zero_le _
  · split
    · split
      · exact h.member room _
      · exact Nat.zero_le _
    · split
      · split
        · exact Nat.zero_le _
        · exact Nat.zero_le _
        · exact h.member room _
        · exact Nat.zero_le _
      · exact Nat.zero_le _

lemma readMember_succ (h : FitsRoom fuel) (room : Nat) (s : List Char) :
    membersDepth (readMember (fuel + 1) room s).1 ≤ room := by
  rw [readMember]
  split
  · exact Nat.zero_le _
  · next key s' _ =>
      dsimp only
      split
      · exact Nat.max_le.mpr ⟨Nat.zero_le _, Nat.zero_le _⟩
      · next s'' _ =>
          have hvalue := h.value room s''
          split
          · exact Nat.max_le.mpr ⟨hvalue, Nat.zero_le _⟩
          · next r _ => exact Nat.max_le.mpr ⟨hvalue, h.members room false r⟩
      · exact Nat.max_le.mpr ⟨Nat.zero_le _, Nat.zero_le _⟩

end FitsRoom

/-- Whatever the number of steps, what is read is no deeper than there is room. -/
theorem fitsRoom (fuel : Nat) : FitsRoom fuel := by
  induction fuel with
  | zero =>
      constructor
      · intro room s; rw [readValue]; exact Nat.zero_le _
      · intro room isFirst s; rw [readItems]; exact Nat.zero_le _
      · intro room s; rw [readItem]; exact Nat.zero_le _
      · intro room isFirst s; rw [readMembers]; exact Nat.zero_le _
      · intro room s; rw [readMember]; exact Nat.zero_le _
  | succ fuel ih =>
      exact ⟨ih.readValue_succ, ih.readItems_succ, ih.readItem_succ, ih.readMembers_succ,
        ih.readMember_succ⟩

lemma depth_read_le (s : String) : (read s).1.depth ≤ maxDepth := (fitsRoom _).value maxDepth _

/-- An item is no deeper than all items. -/
lemma depth_le_of_mem {d : Document} {items : List Document} (h : d ∈ items) :
    d.depth ≤ itemsDepth items := by
  induction items with
  | nil => cases h
  | cons d' rest ih =>
      rw [itemsDepth]
      rcases List.mem_cons.mp h with rfl | h
      · exact le_max_left _ _
      · exact (ih h).trans (le_max_right _ _)

end Document

/-! ### Canonical forms -/

/-- Members are as deep as the deepest of their values. -/
lemma membersDepth_le_iff {ms : List (String × Json)} {n : Nat} :
    membersDepth ms ≤ n ↔ ∀ m ∈ ms, m.2.depth ≤ n := by
  induction ms with
  | nil => simp [membersDepth]
  | cons m rest ih =>
      obtain ⟨key, j⟩ := m
      simp [membersDepth, ih]

lemma membersDepth_sortMembers_le (ms : List (String × Json)) :
    membersDepth (sortMembers ms) ≤ membersDepth ms :=
  membersDepth_le_iff.mpr fun m hm =>
    membersDepth_le_iff.mp (le_refl _) m (mem_of_mem_sortMembers hm)

mutual

/-- A canonical form is no deeper than the value. -/
theorem depth_canonical_le : ∀ j : Json, j.canonical.depth ≤ j.depth
  | .null => Nat.le_refl _
  | .bool _ => Nat.le_refl _
  | .number _ => Nat.le_refl _
  | .string _ => Nat.le_refl _
  | .array items => Nat.succ_le_succ (itemsDepth_canonicalItems_le items)
  | .object members =>
      Nat.succ_le_succ
        ((membersDepth_sortMembers_le _).trans (membersDepth_canonicalMembers_le members))

theorem itemsDepth_canonicalItems_le : ∀ js : List Json,
    itemsDepth (canonicalItems js) ≤ itemsDepth js
  | [] => Nat.le_refl _
  | j :: rest => max_le_max (depth_canonical_le j) (itemsDepth_canonicalItems_le rest)

theorem membersDepth_canonicalMembers_le : ∀ ms : List (String × Json),
    membersDepth (canonicalMembers ms) ≤ membersDepth ms
  | [] => Nat.le_refl _
  | (_, j) :: rest => max_le_max (depth_canonical_le j) (membersDepth_canonicalMembers_le rest)

end

/-! ### Decoders -/

namespace Decoder

variable {α β : Type}

lemma eq_closed_of_raise? {stop : ArrayEnd} {u : Unit} (h : raise? stop.fault? = .ok u) :
    stop = .closed := by
  cases stop with
  | closed => rfl
  | _ => cases h

lemma closed_of_raise? {stop : ObjectEnd} {u : Unit} (h : raise? stop.fault? = .ok u) :
    stop = .closed := by
  cases stop with
  | closed => rfl
  | _ => cases h

/-- Has everything that a decoder makes of documents in a text, no deeper than some number, some
property? -/
def Yields (decode : Decoder α) (room : Nat) (P : α → Prop) : Prop :=
  ∀ d a, d.depth ≤ room → decode .text d = .ok a → P a

lemma yields_any (decode : Decoder α) (room : Nat) : decode.Yields room fun _ => True :=
  fun _ _ _ _ => trivial

mutual

/-- What is read as it is, is no deeper than its document. -/
theorem depth_asJson_le : ∀ {d : Document} {j : Json}, asJson d = .ok j → j.depth ≤ d.depth
  | .null, _, h => by cases h; exact Nat.zero_le _
  | .bool _, _, h => by cases h; exact Nat.zero_le _
  | .number _, _, h => by cases h; exact Nat.zero_le _
  | .string _, _, h => by cases h; exact Nat.zero_le _
  | .array items stop, _, h => by
      rw [asJson] at h
      obtain ⟨js, hjs, h⟩ := Except.bind_eq_ok.mp h
      obtain ⟨u, hu, h⟩ := Except.bind_eq_ok.mp h
      cases h
      cases eq_closed_of_raise? hu
      exact Nat.succ_le_succ (itemsDepth_asItems_le hjs)
  | .object members stop, _, h => by
      rw [asJson] at h
      obtain ⟨ms, hms, h⟩ := Except.bind_eq_ok.mp h
      obtain ⟨u, hu, h⟩ := Except.bind_eq_ok.mp h
      cases h
      cases closed_of_raise? hu
      exact Nat.succ_le_succ (membersDepth_asMembers_le hms)

/-- Items that are read as they are, are no deeper than their documents. -/
theorem itemsDepth_asItems_le : ∀ {ds : List Document} {js : List Json}, asItems ds = .ok js →
    itemsDepth js ≤ Document.itemsDepth ds
  | [], _, h => by cases h; exact Nat.zero_le _
  | d :: rest, _, h => by
      rw [asItems] at h
      obtain ⟨j, hj, h⟩ := Except.bind_eq_ok.mp h
      obtain ⟨js, hjs, h⟩ := Except.bind_eq_ok.mp h
      cases h
      exact max_le_max (depth_asJson_le hj) (itemsDepth_asItems_le hjs)

/-- Members that are read as they are, are no deeper than their documents. -/
theorem membersDepth_asMembers_le : ∀ {ms : List Document.Member} {js : List (String × Json)},
    asMembers ms = .ok js → membersDepth js ≤ Document.membersDepth ms
  | [], _, h => by cases h; exact Nat.zero_le _
  | (key, d, gap) :: rest, _, h => by
      rw [asMembers] at h
      obtain ⟨j, hj, h⟩ := Except.bind_eq_ok.mp h
      obtain ⟨js, hjs, h⟩ := Except.bind_eq_ok.mp h
      cases h
      exact max_le_max (depth_asJson_le hj) (membersDepth_asMembers_le hjs)

end

lemma yields_value (room : Nat) : value.Yields room fun v => v.json.depth ≤ room := by
  intro d v hd hv
  obtain ⟨j, hj, rfl⟩ := Except.map_eq_ok.mp hv
  exact (depth_canonical_le j).trans ((depth_asJson_le hj).trans hd)

/-- Any object. -/
lemma yields_members (room : Nat) : members.Yields room fun m => m.json.depth ≤ room := by
  intro d m hd hm
  cases d with
  | object ms stop =>
      obtain ⟨js, hjs, hm⟩ := Except.bind_eq_ok.mp hm
      obtain ⟨u, hu, hm⟩ := Except.bind_eq_ok.mp hm
      cases hm
      cases closed_of_raise? hu
      have hobject : (Json.object js).depth ≤ room :=
        (Nat.succ_le_succ (membersDepth_asMembers_le hjs)).trans hd
      exact (depth_canonical_le (.object js)).trans hobject
  | _ => cases hm

lemma depth_texts (t : Texts) : t.json.depth ≤ 1 := by
  refine Nat.succ_le_succ (membersDepth_le_iff.mpr fun m hm => ?_)
  obtain ⟨x, _, rfl⟩ := List.mem_map.mp hm
  exact Nat.zero_le _

/-- Results one by one. -/
lemma exists_of_mem_all {f : α → Except Fault β} {as : List α} {bs : List β}
    (h : all f as = .ok bs) {b : β} (hb : b ∈ bs) : ∃ a ∈ as, f a = .ok b := by
  induction as generalizing bs with
  | nil => cases h; cases hb
  | cons a rest ih =>
      rw [all] at h
      obtain ⟨b', hb', h⟩ := Except.bind_eq_ok.mp h
      obtain ⟨bs', hbs', h⟩ := Except.bind_eq_ok.mp h
      cases h
      rcases List.mem_cons.mp hb with rfl | hb
      · exact ⟨a, List.mem_cons_self .., hb'⟩
      · obtain ⟨a', ha', hf⟩ := ih hbs' hb
        exact ⟨a', List.mem_cons_of_mem _ ha', hf⟩

/-- The items of a list are one less deep than the list. -/
lemma yields_listOf {decode : Decoder α} {room : Nat} {P : α → Prop} (h : decode.Yields room P) :
    (listOf decode).Yields (room + 1) fun as => ∀ a ∈ as, P a := by
  intro d as hd has a ha
  cases d with
  | array items stop =>
      obtain ⟨bs, hbs, has⟩ := Except.bind_eq_ok.mp has
      obtain ⟨u, hu, has⟩ := Except.bind_eq_ok.mp has
      cases has
      cases eq_closed_of_raise? hu
      obtain ⟨item, hmem, hitem⟩ := exists_of_mem_all hbs ha
      have hitems : Document.itemsDepth items ≤ room := Nat.le_of_succ_le_succ hd
      exact h item a ((Document.depth_le_of_mem hmem).trans hitems) hitem
  | _ => cases has

/-- A value, if it is not null. -/
lemma yields_optional {decode : Decoder α} {room : Nat} {P : α → Prop} (h : decode.Yields room P) :
    (optional decode).Yields room fun a? => ∀ a ∈ a?, P a := by
  intro d a? hd ha a hmem
  obtain rfl : a? = some a := hmem
  have hdecode : (decode .text d).map some = .ok (some a) := by
    cases d with
    | null => cases ha
    | _ => exact ha
  obtain ⟨b, hresult, hb⟩ := Except.map_eq_ok.mp hdecode
  cases hb
  exact h d a hd hresult

end Decoder

/-! ### Records -/

namespace Record

variable {α β : Type} {room : Nat}

/-- An invariant of the state of a record whose members are not too deep, which gives its value some
property. -/
structure Keeps (r : Record α) (room : Nat) (P : α → Prop) (Inv : r.State → Prop) : Prop where
  start : Inv r.start
  accept : ∀ key d s t, d.depth ≤ room → Inv s → r.accept .text key d s = some (.ok t) → Inv t
  finish : ∀ s a, Inv s → r.finish s = .ok a → P a
  take : ∀ shape stop index items a index' rest, Document.itemsDepth items ≤ room →
    r.take .text shape stop index items = .ok (a, index', rest) →
      P a ∧ Document.itemsDepth rest ≤ room

/-- Has everything that a record makes of members in a text, no deeper than some number, some
property? -/
def Yields (r : Record α) (room : Nat) (P : α → Prop) : Prop := ∃ Inv, r.Keeps room P Inv

/-- A field has the property of what its decoder makes, if what it is where it is missing has it. -/
lemma yields_fieldWith {name : String} {decode : Decoder α} {absent short : Option α}
    {P : α → Prop} (h : decode.Yields room P) (habsent : ∀ a ∈ absent, P a)
    (hshort : ∀ a ∈ short, P a) : (fieldWith name decode absent short).Yields room P := by
  -- the invariant of a field: what was found of it so far has the property
  let Inv (a? : Option α) : Prop := ∀ a ∈ a?, P a
  refine ⟨Inv, ?_, ?_, ?_, ?_⟩
  · intro a ha
    cases ha
  · intro key d s t hd hs ht a ha
    obtain rfl : t = some a := ha
    simp only [fieldWith] at ht
    split at ht
    · cases s with
      | some b => cases ht
      | none =>
          obtain ⟨b, hresult, hb⟩ := Except.map_eq_ok.mp (Option.some.inj ht)
          cases hb
          exact h d a hd hresult
    · cases ht
  · intro s a hs ha
    simp only [fieldWith] at ha
    cases s with
    | some b => cases ha; exact hs _ rfl
    | none =>
        cases absent with
        | some b => cases ha; exact habsent _ rfl
        | none => cases ha
  -- in an array the fields stand in the order of their names, and the last ones may be missing
  · intro shape stop index items a index' rest hitems ha
    simp only [fieldWith] at ha
    cases items with
    | cons d items =>
        obtain ⟨hd, hrest⟩ := Nat.max_le.mp hitems
        obtain ⟨b, hresult, ha⟩ := Except.map_eq_ok.mp ha
        cases ha
        exact ⟨h d _ hd hresult, hrest⟩
    | nil =>
        obtain ⟨u, _, ha⟩ := Except.bind_eq_ok.mp ha
        cases short with
        | some b => cases ha; exact ⟨hshort _ rfl, Nat.zero_le _⟩
        | none => cases ha

lemma yields_field {name : String} {decode : Decoder α} {P : α → Prop} (h : decode.Yields room P) :
    (field name decode).Yields room P :=
  yields_fieldWith h (fun _ ha => by cases ha) fun _ ha => by cases ha

/-- A field that may be null or missing. -/
lemma yields_optionalField {name : String} {decode : Decoder α} {P : α → Prop}
    (h : decode.Yields room P) :
    (optionalField name decode).Yields room fun a? => ∀ a ∈ a?, P a := by
  refine yields_fieldWith (Decoder.yields_optional h) (fun a? ha => ?_) (fun a? ha => ?_)
  · cases ha
    exact fun a hmem => by cases hmem
  · cases ha

/-- A field with a value for its absence. -/
lemma yields_defaultField {name : String} {decode : Decoder α} {absent : α} {P : α → Prop}
    (h : decode.Yields room P) (habsent : P absent) :
    (defaultField name decode absent).Yields room P := by
  refine yields_fieldWith h (fun a ha => ?_) (fun a ha => ?_)
  · cases ha
    exact habsent
  · cases ha
    exact habsent

/-- A function of a record. -/
lemma yields_map {f : α → β} {x : Record α} {P : α → Prop} {Q : β → Prop} (h : x.Yields room P)
    (hPQ : ∀ a, P a → Q (f a)) : (f <$> x).Yields room Q := by
  obtain ⟨Inv, hx⟩ := h
  refine ⟨Inv, hx.start, hx.accept, ?_, ?_⟩
  · intro s b hs hb
    obtain ⟨a, ha, rfl⟩ := Except.map_eq_ok.mp hb
    exact hPQ a (hx.finish s a hs ha)
  · intro shape stop index items b index' rest hitems hb
    obtain ⟨⟨a, index₁, rest₁⟩, ha, hb⟩ := Except.map_eq_ok.mp hb
    cases hb
    obtain ⟨hP, hrest⟩ := hx.take shape stop index items a _ _ hitems ha
    exact ⟨hPQ a hP, hrest⟩

/-- Two records one behind the other: the first one yields functions that give the property to
whatever the second one yields. -/
lemma yields_seq {f : Record (α → β)} {x : Record α} {P : α → Prop} {Q : β → Prop}
    (hf : f.Yields room fun g => ∀ a, P a → Q (g a)) (hx : x.Yields room P) :
    (f <*> x).Yields room Q := by
  obtain ⟨InvF, hf⟩ := hf
  obtain ⟨InvX, hx⟩ := hx
  refine ⟨fun s => InvF s.1 ∧ InvX s.2, ⟨hf.start, hx.start⟩, ?_, ?_, ?_⟩
  -- a member goes to the first record that wants it, and the other one keeps its state
  · intro key d s t hd hs ht
    change (both (fun g a => g a) f x).accept .text key d s = _ at ht
    simp only [both] at ht
    cases hfirst : f.accept .text key d s.1 with
    | some r =>
        rw [hfirst] at ht
        cases r with
        | error e => cases ht
        | ok u => cases ht; exact ⟨hf.accept key d s.1 u hd hs.1 hfirst, hs.2⟩
    | none =>
        rw [hfirst] at ht
        cases hsecond : x.accept .text key d s.2 with
        | none => rw [hsecond] at ht; cases ht
        | some r =>
            rw [hsecond] at ht
            cases r with
            | error e => cases ht
            | ok u => cases ht; exact ⟨hs.1, hx.accept key d s.2 u hd hs.2 hsecond⟩
  · intro s b hs hb
    obtain ⟨g, hg, hb⟩ := Except.bind_eq_ok.mp hb
    obtain ⟨a, ha, hb⟩ := Except.bind_eq_ok.mp hb
    cases hb
    exact hf.finish s.1 g hs.1 hg a (hx.finish s.2 a hs.2 ha)
  · intro shape stop index items b index' rest hitems hb
    obtain ⟨⟨g, index₁, rest₁⟩, hg, hb⟩ := Except.bind_eq_ok.mp hb
    obtain ⟨⟨a, index₂, rest₂⟩, ha, hb⟩ := Except.bind_eq_ok.mp hb
    cases hb
    obtain ⟨hgoal, hrest₁⟩ := hf.take shape stop index items g _ _ hitems hg
    obtain ⟨hP, hrest₂⟩ := hx.take shape stop index₁ rest₁ a _ _ hrest₁ ha
    exact ⟨hgoal a hP, hrest₂⟩

/-- The invariant after all members. -/
lemma Keeps.acceptAll {r : Record α} {P : α → Prop} {Inv : r.State → Prop} (h : r.Keeps room P Inv)
    {ms : List Document.Member} {s t : r.State} (hms : Document.membersDepth ms ≤ room)
    (hs : Inv s) (ht : r.acceptAll .text ms s = .ok t) : Inv t := by
  induction ms generalizing s with
  | nil => cases ht; exact hs
  | cons m rest ih =>
      obtain ⟨key, d, gap⟩ := m
      obtain ⟨hd, hrest⟩ := Nat.max_le.mp hms
      rw [Record.acceptAll] at ht
      cases hnext : r.accept .text key d s with
      | some next =>
          rw [hnext] at ht
          cases next with
          | error e => cases ht
          | ok u => exact ih hrest (h.accept key d s u hd hs hnext) ht
      | none =>
          rw [hnext] at ht
          obtain ⟨_, _, ht⟩ := Except.bind_eq_ok.mp ht
          exact ih hrest hs ht

/-- The fields of a record are one less deep than the object or array. -/
lemma yields_decoder {r : Record α} {P : α → Prop} (h : r.Yields room P) (shape : Shape) :
    (r.decoder shape).Yields (room + 1) P := by
  obtain ⟨Inv, h⟩ := h
  intro d a hd ha
  cases d with
  | object ms stop =>
      obtain ⟨s, hs, ha⟩ := Except.bind_eq_ok.mp ha
      obtain ⟨u, hu, ha⟩ := Except.bind_eq_ok.mp ha
      cases Decoder.closed_of_raise? hu
      have hms : Document.membersDepth ms ≤ room := Nat.le_of_succ_le_succ hd
      exact h.finish s a (h.acceptAll hms h.start hs) ha
  | array items stop =>
      obtain ⟨⟨b, index, rest⟩, hb, ha⟩ := Except.bind_eq_ok.mp ha
      cases rest with
      | cons item rest => cases ha
      | nil =>
          obtain ⟨u, hu, ha⟩ := Except.bind_eq_ok.mp ha
          cases ha
          -- an array that is cut off is refused, so its items are all there
          have hclosed : stop = .closed := by
            cases stop with
            | closed => rfl
            | _ => cases hu
          subst hclosed
          have hitems : Document.itemsDepth items ≤ room := Nat.le_of_succ_le_succ hd
          exact (h.take shape _ 0 items a index [] hitems hb).1
  | _ => cases ha

end Record

/-! ### Whole texts -/

/-- What is read from a text. -/
theorem Decoder.yields_ofText {α : Type} {decode : Decoder α} {P : α → Prop}
    (h : decode.Yields maxDepth P) {s : String} {a : α} (ha : ofText decode s = .ok a) : P a := by
  obtain ⟨b, hb, ha⟩ := Except.bind_eq_ok.mp ha
  obtain ⟨u, _, ha⟩ := Except.bind_eq_ok.mp ha
  cases ha
  exact h _ a (Document.depth_read_le s) hb

end LeasedStore.Json
