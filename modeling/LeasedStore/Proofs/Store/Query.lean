/-
What queries answer where the table of a store holds the rows of entities.

* `EntityStore.readRows_eq`: the entities that a specification asks for, in one piece;
* `EntityStore.readAll_eq`: the same, page by page.
-/
import LeasedStore.Proofs.Query.Limits
import LeasedStore.Proofs.Store.Paging

namespace LeasedStore

open QueriedEntity (IsAddressed)

variable {α : Type} [Entity α] [LawfulEntity α] [DocumentedEntity α] [QueriedEntity α]
  [LawfulQueried α] {es : List α}

/-- Rows of entities are read as the entities. -/
lemma mapM_ofRow_row {α : Type} [Entity α] [DocumentedEntity α] {es : List α}
    (h : ∀ e ∈ es, Entity.IsStorable e) :
    (es.map Entity.row).mapM (Entity.ofRow (α := α)) = .ok es := by
  induction es with
  | nil => rfl
  | cons e rest ih =>
      rw [List.map_cons, List.mapM_cons, DocumentedEntity.ofRow_row e (h e (List.mem_cons_self ..)),
        ih fun x hx => h x (List.mem_cons_of_mem _ hx)]
      rfl

/-- Does the table of entities of a type hold the rows of some entities, in their order? -/
structure Database.Holds (db : Database) (es : List α) : Prop where
  table : ∃ t, db.table? (Entity.schema α).mapping.table = some t ∧ t.rows = es.map Entity.row
  nodup : (es.map Entity.id).Nodup
  isStorable : ∀ e ∈ es, Entity.IsStorable e

/-- Can the criteria of a specification be looked up in the rows of some entities? -/
def QuerySpec.IsAddressed (spec : QuerySpec) (es : List α) : Prop :=
  ∀ e ∈ es, ∀ c ∈ spec.filter, QueriedEntity.IsAddressed e c.property

/-- The rows that a database answers. -/
lemma Database.select_eq {db : Database} {spec : QuerySpec} {query : Select.Bound}
    (h : db.Holds es) (ha : spec.IsAddressed es)
    (hq : (Entity.schema α).mapping.select .sqlite spec = .ok query) (hfits : query.Fits) :
    db.select query = .ok ((spec.answer es).map Entity.row) := by
  obtain ⟨t, ht, hrows⟩ := h.table
  obtain ⟨conditions, order, limit, offset, hquery, hmeaning, -⟩ := TableMapping.select_eq_ok hq
  have htable : db.table? query.query.table = some t := by
    rw [hquery]
    exact ht
  have hleases : db.leasesOf query.query = .ok .empty := by
    rw [leasesOf, hquery, any_isOnLeases_of_forall₂ hmeaning]
    rfl
  have hprojection : query.query.projection = .columns (Entity.schema α).mapping.columnNames := by
    rw [hquery]
  rw [select_of_rowsOf hprojection hfits htable hleases
    (rowsOf_row hq hfits.patterns hrows h.nodup h.isStorable ha), List.map_map]
  exact congrArg Except.ok (List.map_congr_left fun e _ => LawfulQueried.project_row e)

namespace EntityStore

variable {s : EntityStore α} {spec : QuerySpec} {b : Backend}

lemma readRows_eq {query : Select.Bound} (ho : b.isOpen = true) (h : b.database.Holds es)
    (ha : spec.IsAddressed es) (hq : s.mapping.select .sqlite spec = .ok query)
    (hfits : query.Fits) :
    s.readRows spec b = ((spec.answer es).map Entity.row).mapM Entity.ofRow :=
  readRows_of_select ho hq (Database.select_eq h ha hq hfits)

/-- The entities that a specification asks for, page by page. -/
theorem readAll_eq {query : Select.Bound} (ho : b.isOpen = true) (h : b.database.Holds es)
    (hes : es.length < UInt32.size) (ha : spec.IsAddressed es)
    (hq : s.mapping.select .sqlite spec = .ok query) (hfits : query.Fits) :
    s.readAll spec b = .ok (spec.answer es) := by
  have hreads : s.Reads spec b ((spec.found es).map Entity.row) := by
    intro offset limit
    obtain ⟨query', hq'⟩ := TableMapping.exists_select hq offset limit
    have ha' : QuerySpec.IsAddressed { spec with offset := offset, limit := limit } es := ha
    have hfits' := TableMapping.fits_part hq hfits hq'
    rw [readRows_eq ho h ha' hq' hfits', QuerySpec.answer, List.map_take, List.map_drop]
    rfl
  have hlength : ((spec.found es).map Entity.row).length < UInt32.size := by
    -- no more entities are found than there are, so that no offset wraps around
    have hle : (es.filter fun e => spec.isMet e).length ≤ es.length := List.length_filter_le ..
    rw [List.length_map, QuerySpec.found, List.length_mergeSort]
    exact Nat.lt_of_le_of_lt hle hes
  have hstorable : ∀ e ∈ spec.answer es, Entity.IsStorable e := by
    intro e he
    have hfound : e ∈ spec.found es := List.mem_of_mem_drop (List.mem_of_mem_take he)
    exact h.isStorable e (List.mem_filter.mp (List.mem_mergeSort.mp hfound)).1
  have hpages := readPages_eq hreads (.inr hlength)
  rw [← List.map_drop, ← List.map_take] at hpages
  rw [readAll_of_select hq]
  calc s.readPages spec b = ((spec.answer es).map Entity.row).mapM Entity.ofRow := hpages
    _ = .ok (spec.answer es) := mapM_ofRow_row hstorable

end EntityStore

end LeasedStore
