/-
Values that are read from the documents that they were written as.

A record is read member by member, and each member is taken in by the one field of its name.  So a
record takes in what its parts take in, one behind the other, as long as no part takes in a member
that is meant for a later one.

* `Decoder.Reads`: does a decoder read a document as a value?
* `Record.Refuses`, `Record.Reads`: is a key no field, and do members make up a value?
* `Record.reads_fieldWith`, `reads_map`, `reads_seq`: fields one behind the other;
* `Decoder.ofText_compress`: what a decoder reads from the text of a document.
-/
import LeasedStore.Json.Decoder
import LeasedStore.Proofs.Json.Canonical
import LeasedStore.Proofs.Json.Reading

namespace LeasedStore.Json

namespace Decoder

variable {α β : Type}

/-- Does a decoder read a document as a value? -/
def Reads (decode : Decoder α) (j : Json) (a : α) : Prop :=
  ∀ source, decode source (Document.ofJson j) = .ok a

lemma reads_string (s : String) : string.Reads (.string s) s := fun _ => rfl

lemma fitInt64?_toInt (n : Int64) : Numeral.fitInt64? n.toInt = some n := by
  rw [Numeral.fitInt64?, if_pos ⟨Int64.le_toInt n, Int64.toInt_lt n⟩, Int64.ofInt_toInt]

lemma reads_integer {wanted : String} {fit? : Int → Option α} {n : Int} {hn : IsExact n} {a : α}
    (h : fit? n = some a) : (integer wanted fit?).Reads (.number (.int n hn)) a := by
  intro source
  simp only [integer, Document.ofJson, h]

lemma reads_int64 (n : Int64) : int64.Reads (.ofInt64 n) n := reads_integer (fitInt64?_toInt n)

lemma reads_uint32 (n : UInt32) : uint32.Reads (.ofUInt32 n) n := by
  have hlt : n.toNat < UInt32.size := n.toNat_lt_size
  refine reads_integer ?_
  rw [if_pos ⟨Int.natCast_nonneg _, Int.ofNat_lt.mpr hlt⟩, Int.toNat_natCast]
  exact congrArg some n.ofNat_toNat

/-- What is not null is read as a value that may be absent. -/
lemma reads_some {decode : Decoder α} {j : Json} {a : α} (h : decode.Reads j a) (hj : j ≠ .null) :
    (optional decode).Reads j (some a) := by
  intro source
  have hmap : (decode source (Document.ofJson j)).map some = .ok (some a) := by
    rw [h source]
    rfl
  cases j with
  | null => exact absurd rfl hj
  | _ => exact hmap

lemma reads_text? (s : Option String) : (optional string).Reads (.ofText? s) s := by
  cases s with
  | none => exact fun _ => rfl
  | some s => exact reads_some (reads_string s) (by simp [ofText?])

mutual

/-- A document without faults is read as it is. -/
theorem asJson_ofJson : ∀ j : Json, asJson (Document.ofJson j) = .ok j
  | .null => rfl
  | .bool _ => rfl
  | .number _ => rfl
  | .string _ => rfl
  | .array items => by
      rw [Document.ofJson, asJson, asItems_ofItems items]
      rfl
  | .object members => by
      rw [Document.ofJson, asJson, asMembers_ofMembers members]
      rfl

theorem asItems_ofItems : ∀ js : List Json, asItems (Document.ofItems js) = .ok js
  | [] => rfl
  | j :: rest => by
      rw [Document.ofItems, asItems, asJson_ofJson j, asItems_ofItems rest]
      rfl

/-- Members without faults are read as they are. -/
theorem asMembers_ofMembers : ∀ ms : List (String × Json),
    asMembers (Document.ofMembers ms) = .ok ms
  | [] => rfl
  | (key, j) :: rest => by
      rw [Document.ofMembers, asMembers, asJson_ofJson j, asMembers_ofMembers rest]
      rfl

end

lemma reads_value (v : Value) : value.Reads v.json v := by
  intro source
  rw [value, asJson_ofJson]
  exact congrArg Except.ok v.ofJson_json

lemma reads_members (m : Members) : members.Reads m.json m := by
  intro source
  change (asMembers (Document.ofMembers m.list) >>= _) = _
  rw [asMembers_ofMembers]
  exact congrArg Except.ok m.ofList_list

/-- Results one behind the other. -/
lemma all_eq_ok {f : α → Except Fault β} {g : γ → α} {h : γ → β} {xs : List γ}
    (hf : ∀ x ∈ xs, f (g x) = .ok (h x)) : all f (xs.map g) = .ok (xs.map h) := by
  induction xs with
  | nil => rfl
  | cons x rest ih =>
      rw [List.map_cons, all, hf x (List.mem_cons_self ..),
        ih fun y hy => hf y (List.mem_cons_of_mem _ hy)]
      rfl

lemma ofItems_eq_map (js : List Json) : Document.ofItems js = js.map Document.ofJson := by
  induction js with
  | nil => rfl
  | cons j rest ih => rw [Document.ofItems, ih, List.map_cons]

lemma ofMembers_eq_map (ms : List (String × Json)) :
    Document.ofMembers ms = ms.map fun m => (m.1, Document.ofJson m.2, none) := by
  induction ms with
  | nil => rfl
  | cons m rest ih => rw [Document.ofMembers, ih, List.map_cons]

/-- A list is read item by item. -/
lemma reads_listOf {decode : Decoder α} {toJson : α → Json} {as : List α}
    (h : ∀ a ∈ as, decode.Reads (toJson a) a) :
    (listOf decode).Reads (.array (as.map toJson)) as := by
  intro source
  change (all (decode source) (Document.ofItems (as.map toJson)) >>= _) = _
  have hall : all (decode source) ((as.map toJson).map Document.ofJson) = .ok (as.map id) := by
    rw [List.map_map]
    exact all_eq_ok fun a ha => h a ha source
  rw [ofItems_eq_map, hall, List.map_id]
  rfl

/-- An object of texts is read as itself. -/
lemma reads_texts (t : Texts) : texts.Reads t.json t := by
  intro source
  let read (m : Document.Member) : Except Fault (String × String) :=
    (string source m.2.1).map fun s => (m.1, s)
  have hall : all read (t.list.map fun m => (m.1, Document.string m.2, none)) =
      .ok (t.list.map id) :=
    all_eq_ok fun m _ => rfl
  change (all read (Document.ofMembers (t.list.map fun m => (m.1, Json.string m.2))) >>= _) = _
  rw [ofMembers_eq_map, List.map_map]
  change (all read (t.list.map fun m => (m.1, Document.string m.2, none)) >>= _) = _
  rw [hall, List.map_id]
  exact congrArg Except.ok t.ofList_list

lemma reads_choice {table : List (String × α)} {choices : List String} {name : String} {a : α}
    (h : table.lookup name = some a) : (choice table choices).Reads (.string name) a := by
  intro source
  change named table choices name = _
  rw [named, h]

end Decoder

/-! ### Records -/

namespace Record

variable {α β : Type}

/-- Is a key no field of the record? -/
def Refuses (r : Record α) (key : String) : Prop :=
  ∀ source d state, r.accept source key d state = none

/-- Do fields take in some members, all of them, and get from one state to another? -/
def Steps (r : Record α) (source : Source) : List (String × Json) → r.State → r.State → Prop
  | [], s, s' => s = s'
  | (key, j) :: rest, s, s' =>
    ∃ t, r.accept source key (Document.ofJson j) s = some (.ok t) ∧ r.Steps source rest t s'

/-- Do members, all of which are fields, make up a value? -/
def Reads (r : Record α) (ms : List (String × Json)) (a : α) : Prop :=
  ∀ source, ∃ s, r.Steps source ms r.start s ∧ r.finish s = .ok a

section Steps

variable {r : Record α} {source : Source} {ms ms' : List (String × Json)}

/-- Members that are taken in one behind the other. -/
lemma Steps.acceptAll {s s' : r.State} (h : r.Steps source ms s s') :
    r.acceptAll source (Document.ofMembers ms) s = .ok s' := by
  induction ms generalizing s with
  | nil => cases h; rfl
  | cons m rest ih =>
      obtain ⟨t, ht, hrest⟩ := h
      rw [Document.ofMembers, Record.acceptAll, ht]
      exact ih hrest

lemma Steps.append {s t s' : r.State} (h : r.Steps source ms s t)
    (h' : r.Steps source ms' t s') : r.Steps source (ms ++ ms') s s' := by
  induction ms generalizing s with
  | nil => cases h; exact h'
  | cons m rest ih =>
      obtain ⟨u, hu, hrest⟩ := h
      exact ⟨u, hu, ih hrest⟩

variable {β γ : Type} {f : α → β → γ} {x : Record α} {y : Record β}

/-- What the first of two records takes in, both take in. -/
lemma Steps.left {s t : x.State} (h : x.Steps source ms s t) (u : y.State) :
    (both f x y).Steps source ms (s, u) (t, u) := by
  induction ms generalizing s with
  | nil => cases h; rfl
  | cons m rest ih =>
      obtain ⟨v, hv, hrest⟩ := h
      refine ⟨(v, u), ?_, ih hrest⟩
      simp only [both, hv]
      rfl

/-- What the second of two records takes in and the first one refuses, both take in. -/
lemma Steps.right {u t : y.State} (h : y.Steps source ms u t) (hx : ∀ m ∈ ms, x.Refuses m.1)
    (s : x.State) : (both f x y).Steps source ms (s, u) (s, t) := by
  induction ms generalizing u with
  | nil => cases h; rfl
  | cons m rest ih =>
      obtain ⟨v, hv, hrest⟩ := h
      have hnone := hx m (List.mem_cons_self ..) source (Document.ofJson m.2) s
      refine ⟨(s, v), ?_, ih hrest fun m hm => hx m (List.mem_cons_of_mem _ hm)⟩
      simp only [both, hnone, hv]
      rfl

end Steps

/-! ### What is no field -/

@[simp]
lemma refuses_fieldWith {name key : String} {decode : Decoder α} {absent short : Option α} :
    (fieldWith name decode absent short).Refuses key ↔ key ≠ name := by
  constructor
  · rintro h rfl
    have hnone := h .text .null none
    simp [fieldWith] at hnone
  · intro h source d state
    simp [fieldWith, h]

@[simp]
lemma refuses_map {f : α → β} {x : Record α} {key : String} :
    (f <$> x).Refuses key ↔ x.Refuses key := Iff.rfl

@[simp]
lemma refuses_seq {f : Record (α → β)} {x : Record α} {key : String} :
    (f <*> x).Refuses key ↔ f.Refuses key ∧ x.Refuses key := by
  constructor
  · intro h
    have hf : f.Refuses key := by
      intro source d s
      have hnone : (both (fun g a => g a) f x).accept source key d (s, x.start) = none :=
        h source d (s, x.start)
      cases hs : f.accept source key d s with
      | none => rfl
      | some r => simp [both, hs] at hnone
    refine ⟨hf, fun source d t => ?_⟩
    have hnone : (both (fun g a => g a) f x).accept source key d (f.start, t) = none :=
      h source d (f.start, t)
    simpa [both, hf source d f.start] using hnone
  · rintro ⟨hf, hx⟩ source d state
    change (both (fun g a => g a) f x).accept source key d state = none
    simp only [both, hf source d state.1, hx source d state.2]
    rfl

/-! ### What is read -/

/-- A field is read from its member. -/
lemma reads_fieldWith {name : String} {decode : Decoder α} {absent short : Option α} {j : Json}
    {a : α} (h : decode.Reads j a) : (fieldWith name decode absent short).Reads [(name, j)] a := by
  intro source
  refine ⟨some a, ⟨some a, ?_, rfl⟩, rfl⟩
  simp only [fieldWith, if_pos, h source]
  rfl

/-- A function of a record takes in what the record does. -/
lemma Steps.map {f : α → β} {x : Record α} {source : Source} {ms : List (String × Json)}
    {s t : x.State} (h : x.Steps source ms s t) : (f <$> x).Steps source ms s t := by
  induction ms generalizing s with
  | nil => exact h
  | cons m rest ih =>
      obtain ⟨u, hu, hrest⟩ := h
      exact ⟨u, hu, ih hrest⟩

/-- A function of a record is read from the members of the record. -/
lemma reads_map {f : α → β} {x : Record α} {ms : List (String × Json)} {a : α}
    (h : x.Reads ms a) : (f <$> x).Reads ms (f a) := by
  intro source
  obtain ⟨s, hs, hf⟩ := h source
  refine ⟨s, hs.map, ?_⟩
  change (x.finish s).map f = _
  rw [hf]
  rfl

/-- A record is read from the members of its parts, one behind the other, if the first part takes
in none of those that are meant for the second. -/
lemma reads_seq {f : Record (α → β)} {x : Record α} {ms ms' : List (String × Json)} {g : α → β}
    {a : α} (hf : f.Reads ms g) (hx : x.Reads ms' a) (hr : ∀ m ∈ ms', f.Refuses m.1) :
    (f <*> x).Reads (ms ++ ms') (g a) := by
  intro source
  obtain ⟨s, hs, hsf⟩ := hf source
  obtain ⟨t, ht, htf⟩ := hx source
  refine ⟨(s, t), (hs.left x.start).append (ht.right hr s), ?_⟩
  change (f.finish s >>= fun g => x.finish t >>= fun a => pure (g a)) = _
  rw [hsf, htf]
  rfl

/-- One more field behind the others. -/
lemma reads_seq_field (ms : List (String × Json)) {f : Record (α → β)} {g : α → β} {name : String}
    {decode : Decoder α} {absent short : Option α} {j : Json} {a : α} (h : decode.Reads j a)
    (hr : f.Refuses name) (hf : f.Reads ms g) :
    (f <*> fieldWith name decode absent short).Reads (ms ++ [(name, j)]) (g a) := by
  refine reads_seq hf (reads_fieldWith h) fun m hm => ?_
  rw [List.mem_singleton.mp hm]
  exact hr

/-- A record is read from the object of its members. -/
lemma reads_decoder {r : Record α} {ms : List (String × Json)} {a : α} (h : r.Reads ms a)
    (shape : Shape) : (r.decoder shape).Reads (.object ms) a := by
  intro source
  obtain ⟨s, hs, hf⟩ := h source
  change (r.acceptAll source (Document.ofMembers ms) r.start >>= fun state => _) = _
  rw [hs.acceptAll]
  exact hf

end Record

/-! ### Whole texts -/

/-- What a decoder reads from the text of a document. -/
theorem Decoder.ofText_compress {α : Type} {decode : Decoder α} {j : Json} {a : α}
    (hj : j.IsReadable) (h : decode.Reads j a) : ofText decode j.compress = .ok a := by
  rw [ofText, Document.read_compress hj]
  change (decode .text (Document.ofJson j) >>= _) = _
  rw [h .text]
  rfl

end LeasedStore.Json
