/-
Answers from a table whose rows can all be read.

A row that can be read has a well-formed document: what a reader of JSON accepts, a reader of JSON5
accepts as well.  So nothing keeps a query from looking at such a row but a key in the query that no
path can name, and then no row matches.  An answer thus has the ids of the rows that match, from the
offset up to the limit, or else there are none.

* `Database.IsDecodable`: can every row in the table of a kind be read?
* `StoreKind.isWellFormed_of_ofRow`: the document in which members are looked up is well-formed;
* `Criterion.not_holdsOn_of_not_isWhole`: what no path leads to satisfies no criterion;
* `EntityStore.reads_of_isWhole`, `exists_mapM_matching`: the rows that parts of a query answer, and
  their entities;
* `EntityStore.window_of_readRows`: the ids of an answer.
-/
import Mathlib
import LeasedStore.Proofs.Json5.Subset
import LeasedStore.Proofs.Query.Matching
import LeasedStore.Proofs.Store.Fetching
import LeasedStore.Proofs.Store.Rows
import LeasedStore.Proofs.Store.Whole

namespace LeasedStore

/-! ### Rows that can be read -/

/-- Can every row in the table of a kind be read as an entity? -/
def Database.IsDecodable (k : StoreKind) (db : Database) : Prop :=
  ∀ t ∈ db.table? k.schema.mapping.table, ∀ r ∈ t.rows,
    ∃ e : k.Record, Entity.ofRow (r.project k.schema.mapping.columnNames) = .ok e

instance (k : StoreKind) (db : Database) : Decidable (db.IsDecodable k) :=
  decidable_of_iff (∀ t ∈ db.table? k.schema.mapping.table, ∀ r ∈ t.rows,
      (Entity.ofRow (r.project k.schema.mapping.columnNames) :
        Except StoreError k.Record).isOk = true) (by
    refine forall₄_congr fun t _ r _ => ⟨Except.exists_of_isOk, fun ⟨e, he⟩ => ?_⟩
    rw [he]
    rfl)

/-- A document that can be read is well-formed, if only documents without a fault can be. -/
lemma Row.isWellFormed_of_document {α : Type} {decode : Json.Decoder α} {r : Row}
    {column document : String} {a : α}
    (hdecode : ∀ d a, decode .text d = .ok a → ∃ j, Json.Decoder.asJson d = .ok j)
    (h : r.document column decode = .ok a) (hcell : r.cell column = .text document) :
    Json5.IsWellFormed document := by
  obtain ⟨raw, hraw, h⟩ := Except.bind_eq_ok.mp h
  rw [text, hcell] at hraw
  cases hraw
  rw [ofDocument] at h
  split at h
  · next a' ha => exact Json5.isWellFormed_of_ofText hdecode ha
  · cases h

/-- The document in which members are looked up is well-formed where the row can be read. -/
lemma StoreKind.isWellFormed_of_ofRow {k : StoreKind} {r : Row} {e : k.Record}
    (h : Entity.ofRow (r.project k.schema.mapping.columnNames) = .ok e) {property : String}
    {target : Target} (ht : k.schema.mapping.target? property = some target) :
    target.IsWellFormed r := by
  -- what a record is read from is among the columns that are projected
  cases target with
  | column c => trivial
  | member c keys =>
      intro document hcell
      obtain ⟨⟨name, hname, hc⟩, -⟩ := TableMapping.jsonMembers_of_target? ht
      have hmem : c.name ∈ k.schema.mapping.columnNames :=
        List.mem_map_of_mem (List.mem_of_find?_eq_some hc)
      rw [← Row.cell_project hmem] at hcell
      generalize r.project k.schema.mapping.columnNames = r' at h hcell
      cases k with
      | asset =>
          cases hname
          cases hc
          obtain ⟨_, -, h⟩ := Except.bind_eq_ok.mp h
          obtain ⟨_, hmembers, -⟩ := Except.bind_eq_ok.mp h
          exact Row.isWellFormed_of_document Json5.exists_asJson_of_members hmembers hcell
      | policyDefinition =>
          cases hname
          cases hc
          obtain ⟨_, -, h⟩ := Except.bind_eq_ok.mp h
          obtain ⟨_, hvalue, -⟩ := Except.bind_eq_ok.mp h
          exact Row.isWellFormed_of_document Json5.exists_asJson_of_value hvalue hcell
      | contractDefinition => cases hname
      | contractNegotiation => cases hname
      | transferProcess => cases hname

lemma StoreKind.cell_of_ofRow {k : StoreKind} {r : Row} {e : k.Record}
    (h : Entity.ofRow (r.project k.schema.mapping.columnNames) = .ok e) :
    r.cell k.schema.mapping.idColumn = .text (Entity.id e) := by
  rw [← Row.cell_project k.idColumn_mem_columnNames]
  exact LawfulEntity.cell_of_ofRow h

/-- Rows that can be read have ids of their own. -/
lemma Table.nodup_ids {k : StoreKind} {t : Table} (hdef : t.definition = k.schema.tableDef)
    (htext : ∀ r ∈ t.rows, ∃ id, r.cell k.schema.mapping.idColumn = .text id) :
    (t.rows.map fun r => r.cell k.schema.mapping.idColumn).Nodup := by
  have hkey : k.schema.tableDef.key = k.schema.mapping.idColumn := by cases k <;> rfl
  have hkeys : t.definition.keys t.rows = t.rows.map fun r => r.cell k.schema.mapping.idColumn := by
    rw [TableDef.keys, ← List.filterMap_eq_map]
    refine List.filterMap_congr fun r hr => ?_
    obtain ⟨id, hid⟩ := htext r hr
    rw [hdef, TableDef.key?, hkey, hid]
    simp [hid]
  exact hkeys ▸ t.keys_nodup

/-- Rows that match have ids of their own. -/
lemma Database.nodup_matchingIds {k : StoreKind} {spec : QuerySpec} {db : Database}
    (hc : db.Conforms) (hd : db.IsDecodable k) : (db.matchingIds k spec).Nodup := by
  rw [matchingIds]
  cases ht : db.table? k.schema.mapping.table with
  | none => exact .nil
  | some t =>
      refine Table.nodup_matching (Table.nodup_ids (hc k t ht) fun r hr => ?_)
      obtain ⟨e, he⟩ := hd t ht r hr
      exact ⟨_, StoreKind.cell_of_ofRow he⟩

/-! ### Paths that are none -/

/-- What is looked at along what is no path is null, where it is found. -/
lemma Target.datum_of_not_isWhole {target : Target} {r : Row} {d : Datum} (h : ¬ target.IsWhole)
    (hd : target.datum r = .ok d) : d = .null := by
  cases target with
  | column c => exact absurd trivial h
  | member c keys =>
      obtain ⟨s, hs, rfl⟩ := Except.map_eq_ok.mp hd
      rw [eq_none_of_memberText h hs]
      rfl

/-- A criterion on what no path leads to holds on no row. -/
lemma Criterion.not_holdsOn_of_not_isWhole {m : TableMapping} {c : Criterion} {target : Target}
    (ht : m.target? c.property = some target) (h : ¬ target.IsWhole) (r : Row) :
    ¬ c.HoldsOn m r := by
  rintro ⟨target', d, ht', hd, hmeaning⟩
  cases ht'.symm.trans ht
  cases Target.datum_of_not_isWhole h hd
  cases ho : c.operator with
  | compare op =>
      rw [ho] at hmeaning
      obtain ⟨v, -, hheld⟩ := hmeaning
      rw [Comparison.holds_null] at hheld
      cases hheld
  | oneOf =>
      rw [ho] at hmeaning
      obtain ⟨o, -, v, -, hheld⟩ := hmeaning
      rw [Comparison.holds_null] at hheld
      cases hheld

/-- Are all criteria of a specification on what paths lead to? -/
def QuerySpec.IsWhole (m : TableMapping) (spec : QuerySpec) : Prop :=
  ∀ c ∈ spec.filter, ∀ target, m.target? c.property = some target → target.IsWhole

lemma QuerySpec.HasPlainKeys.isWhole {k : StoreKind} {spec : QuerySpec}
    (h : spec.HasPlainKeys k.schema.mapping) : spec.IsWhole k.schema.mapping :=
  fun c hc _ ht => StoreKind.isWhole_of_target? ht fun column keys hm key hk =>
    (h c hc column keys hm key hk).2

/-- No row matches if a criterion is on what no path leads to. -/
lemma Database.matchingIds_of_not_isWhole {k : StoreKind} {spec : QuerySpec} {db : Database}
    (h : ¬ spec.IsWhole k.schema.mapping) : db.matchingIds k spec = [] := by
  simp only [QuerySpec.IsWhole, not_forall] at h
  obtain ⟨c, hc, target, ht, hwhole⟩ := h
  rw [matchingIds]
  split
  · next t _ =>
    refine List.map_eq_nil_iff.mpr (List.eq_nil_iff_forall_not_mem.mpr fun r hr => ?_)
    exact Criterion.not_holdsOn_of_not_isWhole ht hwhole r ((Table.mem_matching.mp hr).2 c hc)
  · rfl

/-! ### Answers -/

/-- On a row that can be read all criteria can be looked at that are on what paths lead to. -/
lemma Condition.Says.exists_holds_of_ofRow {k : StoreKind} {params : List Param} {r : Row}
    {e : k.Record} {c : Criterion} {cond : Condition} {leases : LeaseTable}
    (h : cond.Says params k.schema.mapping c)
    (he : Entity.ofRow (r.project k.schema.mapping.columnNames) = .ok e)
    (hwhole : ∀ target, k.schema.mapping.target? c.property = some target → target.IsWhole) :
    ∃ held, cond.holds leases params r = .ok held :=
  h.exists_holds fun hreads htarget => hreads.exists_datum_of_isWhole (hwhole _ htarget)
    (StoreKind.isWellFormed_of_ofRow he htarget)

namespace EntityStore

variable {k : StoreKind} {s : EntityStore k.Record} {spec : QuerySpec} {query : Select.Bound}
  {b : Backend} {t : Table}

/-- The ids of entities, as the id column holds them. -/
def ids (es : List k.Record) : List Cell := es.map fun e => .text (Entity.id e)

lemma ids_append (es es' : List k.Record) : ids (es ++ es') = ids es ++ ids es' :=
  List.map_append

@[simp]
lemma length_ids (es : List k.Record) : (ids es).length = es.length := List.length_map ..

/-- The parts of a query whose criteria are all on what paths lead to answer parts of the rows that
match. -/
lemma reads_of_isWhole (ho : b.isOpen = true) (hc : b.database.Conforms)
    (hd : b.database.IsDecodable k) (ht : b.database.table? k.schema.mapping.table = some t)
    (hq : k.schema.mapping.select .sqlite spec = .ok query) (hfits : query.Fits)
    (hwhole : spec.IsWhole k.schema.mapping) :
    s.Reads spec b ((t.matching k.schema.mapping spec).map fun r =>
      r.project k.schema.mapping.columnNames) := by
  have hdecodable : ∀ r ∈ t.rows,
      ∃ e : k.Record, Entity.ofRow (r.project k.schema.mapping.columnNames) = .ok e := hd t ht
  have htext : ∀ r ∈ t.rows, ∃ id, r.cell k.schema.mapping.idColumn = .text id := fun r hr => by
    obtain ⟨e, he⟩ := hdecodable r hr
    exact ⟨_, StoreKind.cell_of_ofRow he⟩
  obtain ⟨whole, hshort, hconds, horder, hparts⟩ :=
    exists_select_part ht hq hfits fun r hr c hcr params cond h => by
      obtain ⟨e, he⟩ := hdecodable r hr
      exact h.exists_holds_of_ofRow he (hwhole c hcr)
  have hfound : whole.found .empty t = t.matching k.schema.mapping spec :=
    Select.Bound.found_eq_matching hshort hconds horder
      (fun r hr => StoreKind.int_of_ofRow (hdecodable r hr).choose_spec) htext
      (Table.nodup_ids (hc k t ht) htext)
  intro offset limit
  obtain ⟨part, hpart, hselect⟩ := hparts offset limit
  rw [hfound, List.map_take, List.map_drop] at hselect
  exact readRows_of_select ho hpart hselect

/-- Rows that match are read as entities with their ids, from any offset up to any limit. -/
lemma exists_mapM_matching (spec : QuerySpec) {db : Database} (hd : db.IsDecodable k)
    (ht : db.table? k.schema.mapping.table = some t) (offset limit : ℕ) :
    ∃ es : List k.Record, ((((t.matching k.schema.mapping spec).map fun r =>
        r.project k.schema.mapping.columnNames).drop offset).take limit).mapM Entity.ofRow =
          .ok es ∧
      ids es = ((db.matchingIds k spec).drop offset).take limit := by
  have hmem : ∀ r ∈ ((t.matching k.schema.mapping spec).drop offset).take limit, r ∈ t.rows :=
    fun r hr => (Table.mem_matching.mp (List.mem_of_mem_drop (List.mem_of_mem_take hr))).1
  have hread : ∀ r ∈ (((t.matching k.schema.mapping spec).drop offset).take limit).map fun r =>
      r.project k.schema.mapping.columnNames, ∃ e : k.Record, Entity.ofRow r = .ok e := by
    intro r hr
    obtain ⟨r', hr', rfl⟩ := List.mem_map.mp hr
    exact hd t ht r' (hmem r' hr')
  rw [← List.map_drop, ← List.map_take]
  obtain ⟨es, hes⟩ := Except.exists_mapM hread
  refine ⟨es, hes, ?_⟩
  rw [List.mapM_map] at hes
  rw [ids, Except.map_of_mapM hes fun r _ e he => (StoreKind.cell_of_ofRow he).symm,
    List.map_take, List.map_drop, Database.matchingIds, ht]

/-- The answer to a query whose criteria are all on what paths lead to: the rows that match, from
the offset up to the limit. -/
lemma window_of_isWhole (ho : b.isOpen = true) (hc : b.database.Conforms)
    (hd : b.database.IsDecodable k) (ht : b.database.table? k.schema.mapping.table = some t)
    (hq : k.schema.mapping.select .sqlite spec = .ok query) (hfits : query.Fits)
    (hwhole : spec.IsWhole k.schema.mapping) (offset limit : UInt32) :
    ∃ es, s.readRows { spec with offset := offset, limit := limit } b = .ok es ∧
      ids es = ((b.database.matchingIds k spec).drop offset.toNat).take limit.toNat := by
  obtain ⟨es, hes, hids⟩ := exists_mapM_matching spec hd ht offset.toNat limit.toNat
  exact ⟨es, (reads_of_isWhole ho hc hd ht hq hfits hwhole offset limit).trans hes, hids⟩

/-- The answer to a part of a query has the ids of the rows that match, from the offset up to the
limit; only where no row matches there may be none. -/
theorem window_of_readRows (ho : b.isOpen = true) (hc : b.database.Conforms)
    (hd : b.database.IsDecodable k) (hq : k.schema.mapping.select .sqlite spec = .ok query)
    (hfits : query.Fits) (offset limit : UInt32) :
    (∃ es, s.readRows { spec with offset := offset, limit := limit } b = .ok es ∧
      ids es = ((b.database.matchingIds k spec).drop offset.toNat).take limit.toNat) ∨
    (∃ e, s.readRows { spec with offset := offset, limit := limit } b = .error e) ∧
      b.database.matchingIds k spec = [] := by
  by_cases hwhole : spec.IsWhole k.schema.mapping
  · cases ht : b.database.table? k.schema.mapping.table with
    | some t => exact .inl (window_of_isWhole ho hc hd ht hq hfits hwhole offset limit)
    | none =>
        refine .inr ⟨?_, by rw [Database.matchingIds, ht]⟩
        cases hread : s.readRows { spec with offset := offset, limit := limit } b with
        | error e => exact ⟨e, rfl⟩
        | ok es =>
            obtain ⟨t, ht', -⟩ := length_readRows_le hread
            cases ht.symm.trans ht'
  -- a criterion whose path the database does not read as one is met by no row, whatever is answered
  · have hnone : b.database.matchingIds k spec = [] :=
      Database.matchingIds_of_not_isWhole hwhole
    cases hread : s.readRows { spec with offset := offset, limit := limit } b with
    | error e => exact .inr ⟨⟨e, rfl⟩, hnone⟩
    | ok es =>
        refine .inl ⟨es, rfl, ?_⟩
        simp only [QuerySpec.IsWhole, not_forall] at hwhole
        obtain ⟨c, hmem, target, htarget, hwhole⟩ := hwhole
        have hempty : es = [] := List.eq_nil_iff_forall_not_mem.mpr fun e he => by
          obtain ⟨t, r, -, -, -, hall⟩ := exists_row_of_readRows hread he
          exact Criterion.not_holdsOn_of_not_isWhole htarget hwhole r (hall c hmem)
        rw [hnone, hempty]
        simp [ids]

end EntityStore

end LeasedStore
