/-
Entities that are saved and read again.

An entity that is put into its table, or overwritten there, is found as it was given, whatever it
was before.  Where its documents are nested too deep nothing is found, since they cannot be read; so
what is found is the entity in any case.

* `Entity.IsIntegral`: are all numbers in the documents of an entity integers?
* `StatefulKind.eq_of_ofRow_row`: what is read from the row of such an entity is the entity;
* `EntityStore.Saves`, `EntityStore.find_of_saves`: what is saved, not too deep, is found again;
* `StatefulKind.Reloads`, `StatefulKind.eq_of_reloads`: what is found again is what was saved.
-/
import LeasedStore.Proofs.Entity.Faithful
import LeasedStore.Proofs.Json.TooDeep
import LeasedStore.Proofs.Store.Rows

namespace LeasedStore

/-- Are all numbers in the documents of an entity integers? -/
def Entity.IsIntegral {α : Type} [Entity α] [DocumentedEntity α] (e : α) : Prop :=
  ∀ j ∈ DocumentedEntity.documents e, j.IsIntegral

/-! ### Rows that can be read -/

section

open Json Json.Record Json.Decoder

/-- An agreement from whose text one is read is not too deep. -/
lemma ContractAgreement.depth_le_of_ofText {a b : ContractAgreement} (ha : a.toJson.IsIntegral)
    (h : ofText ContractAgreement.decode a.toJson.compress = .ok b) :
    a.toJson.depth ≤ maxDepth := by
  have hpolicy : record.Wants "policy" := by
    refine (Wants.seq_right (wants_fieldWith fun d hd => ?_) (by simp [field])).seq _
    exact exists_value_error hd
  refine Json.Decoder.depth_le_of_ofText ha (fun m hm hdeep => ?_) h
  simp only [List.mem_cons, List.not_mem_nil, or_false] at hm
  -- no other member is nested
  rcases hm with rfl | rfl | rfl | rfl | rfl | rfl
  · exact absurd hdeep (by simp [depth])
  · exact absurd hdeep (by simp [depth])
  · exact absurd hdeep (by simp [depth])
  · exact absurd hdeep (by simp [depth])
  · exact hpolicy
  · exact absurd hdeep (by simp [depth, Json.ofInt64])

/-- A request from whose text one is read is not too deep. -/
lemma DataRequest.depth_le_of_ofText {d e : DataRequest} (hd : d.toJson.IsIntegral)
    (h : ofText DataRequest.decode d.toJson.compress = .ok e) : d.toJson.depth ≤ maxDepth := by
  have hdestination : record.Wants "dataDestination" := by
    refine (Wants.seq_right (wants_fieldWith fun d hd => ?_) (by simp [field])).seq _
    exact exists_members_error hd
  refine Json.Decoder.depth_le_of_ofText hd (fun m hm hdeep => ?_) h
  simp only [List.mem_cons, List.not_mem_nil, or_false] at hm
  rcases hm with rfl | rfl | rfl | rfl | rfl | rfl | rfl | rfl
  iterate 6 exact absurd hdeep (by simp [depth])
  · exact hdestination
  · exact absurd hdeep (Nat.not_lt.mpr (depth_texts d.properties))

end

namespace Row

variable {α : Type} {r : Row} {column raw : String} {decode : Json.Decoder α}

/-- What a text says as a document is read from the text. -/
lemma ofText_of_ofDocument {a : α} (h : ofDocument column decode raw = .ok a) :
    Json.Decoder.ofText decode raw = .ok a := by
  rw [ofDocument] at h
  split at h
  · next b hb =>
    cases h
    exact hb
  · cases h

lemma ofText_of_document {a : α} (ht : r.text column = .ok raw)
    (h : r.document column decode = .ok a) : Json.Decoder.ofText decode raw = .ok a := by
  rw [document, ht] at h
  exact ofText_of_ofDocument h

/-- What a document says that there might not be is read from the text of its column. -/
lemma ofText_of_document? {a? : Option α} (ht : r.text? column = .ok (some raw))
    (h : r.document? column decode = .ok a?) : ∃ a, Json.Decoder.ofText decode raw = .ok a := by
  obtain ⟨raw?, hraw, h⟩ := Except.bind_eq_ok.mp h
  cases ht.symm.trans hraw
  obtain ⟨a, ha, -⟩ := Except.bind_eq_ok.mp h
  exact ⟨a, ofText_of_ofDocument ha⟩

end Row

/-- The documents of an entity from whose row an entity is read are not too deep. -/
lemma StatefulKind.isStorable_of_ofRow_row {k : StatefulKind} {e e' : k.kind.Record}
    (he : Entity.IsIntegral e) (h : Entity.ofRow (Entity.row e) = .ok e') :
    Entity.IsStorable e := by
  generalize hrow : Entity.row e = r at h
  intro j hj
  refine ⟨he j hj, ?_⟩
  cases k with
  | contractNegotiation =>
      obtain ⟨a, ha, rfl⟩ := Option.map_eq_some_iff.mp (Option.mem_toList.mp hj)
      have htext : r.text? "contract_agreement" = .ok (some a.toJson.compress) := by
        have hagreement : (Entity.row e).text? "contract_agreement" =
            .ok (e.agreement.map fun a => a.toJson.compress) := Row.text?_of_cell rfl
        rw [← hrow, hagreement, ha]
        rfl
      iterate 12 obtain ⟨_, -, h⟩ := Except.bind_eq_ok.mp h
      obtain ⟨_, hb, -⟩ := Except.bind_eq_ok.mp h
      obtain ⟨b, hb⟩ := Row.ofText_of_document? htext hb
      exact ContractAgreement.depth_le_of_ofText (he _ hj) hb
  | transferProcess =>
      cases List.mem_singleton.mp hj
      iterate 8 obtain ⟨_, -, h⟩ := Except.bind_eq_ok.mp h
      obtain ⟨b, hb, -⟩ := Except.bind_eq_ok.mp h
      exact DataRequest.depth_le_of_ofText (he _ hj) (Row.ofText_of_document (hrow ▸ rfl) hb)

theorem StatefulKind.eq_of_ofRow_row {k : StatefulKind} {e e' : k.kind.Record}
    (he : Entity.IsIntegral e) (h : Entity.ofRow (Entity.row e) = .ok e') : e' = e := by
  have hread := DocumentedEntity.ofRow_row e (isStorable_of_ofRow_row he h)
  exact Except.ok.inj (h.symm.trans hread)

/-! ### What is saved -/

namespace EntityStore

variable {k : StoreKind} {b b' : Backend}

/-- Does a store put an entity into its table, or overwrite the one of its id there? -/
def Saves (s : EntityStore k.Record) (e : k.Record) (b b' : Backend) : Prop :=
  (s.create e).runOn b = (.ok (), b') ∨ ∃ holder, (s.update e holder).runOn b = (.ok (), b')

/-- The row of an entity that is saved. -/
lemma row?_of_saves {s : EntityStore k.Record} {e : k.Record} (hc : b.database.Conforms)
    (h : s.Saves e b b') : b'.database.row? k (Entity.id e) = some (Entity.row e) := by
  rcases h with h | ⟨holder, h⟩
  · obtain ⟨-, t, t', ht, hi, -⟩ := create_eq_ok h
    rw [row?_of_create hc h, if_pos rfl, Database.row?_of_table? ht]
    cases hf : t.find? (.text (Entity.id e)) with
    | none => rfl
    | some r => cases hi.symm.trans (insert_row_of_taken (hc k t ht) e hf)
  · obtain ⟨-, lt, lt', t, t', -, -, ht, hw, -⟩ := guarded_eq_ok h
    rw [row?_of_update hc h, if_pos rfl, Database.row?_of_table? ht]
    cases hf : t.find? (.text (Entity.id e)) with
    | none => cases hw.symm.trans (Table.replace_of_none (key?_row_of_conforms (hc k t ht) e) hf)
    | some r => rfl

/-- A backend in which something is saved is open, and stays so. -/
lemma isOpen_of_saves {s : EntityStore k.Record} {e : k.Record} (h : s.Saves e b b') :
    b'.isOpen = true := by
  rcases h with h | ⟨holder, h⟩
  · have hsetting := s.keepsSetting_create e b
    rw [h] at hsetting
    exact (congrArg Prod.fst hsetting).trans (create_eq_ok h).1
  · have hsetting := s.keepsSetting_guarded .update (Entity.id e) holder
      (fun t => t.replace (t.definition.row (Entity.params e))) b
    rw [show (s.guarded .update _ holder _).runOn b = _ from h] at hsetting
    exact (congrArg Prod.fst hsetting).trans (guarded_eq_ok h).1

theorem find_of_saves {s s' : EntityStore k.Record} {e : k.Record} (hc : b.database.Conforms)
    (h : s.Saves e b b') (he : Entity.IsStorable e) :
    s'.find (Entity.id e) b' = .ok (some e) :=
  find_of_row? (isOpen_of_saves h) (row?_of_saves hc h) (DocumentedEntity.ofRow_row e he)

end EntityStore

/-- Is an entity saved, and the other one found again? -/
def StatefulKind.Reloads {k : StatefulKind} (e e' : k.kind.Record) : Prop :=
  ∃ (s s' : EntityStore k.kind.Record) (b b' : Backend), b.database.Conforms ∧ s.Saves e b b' ∧
    s'.find (Entity.id e) b' = .ok (some e')

/-- What is found again is what was saved. -/
theorem StatefulKind.eq_of_reloads {k : StatefulKind} {e e' : k.kind.Record}
    (he : Entity.IsIntegral e) (h : Reloads e e') : e' = e := by
  obtain ⟨s, s', b, b', hc, hsaved, hfound⟩ := h
  obtain ⟨-, r, hr, hread⟩ := EntityStore.find_eq_some_iff.mp hfound
  cases hr.symm.trans (EntityStore.row?_of_saves hc hsaved)
  exact eq_of_ofRow_row he hread

end LeasedStore
