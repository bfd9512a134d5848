/-
What candidates are at the instant at which they are selected.

* `TableMapping.Offer`: a row that the query for candidates matches;
* `EntityStore.exists_offer_of_candidates`: every candidate comes from one;
* `EntityStore.current?_of_unleasedCandidates`: a candidate is the entity of its id as it is now,
  and its row meets the filter.
-/
import LeasedStore.Proofs.Store.Matching

namespace LeasedStore

/-- A row that a query for the entities of a filter matches that looks at leases too. -/
structure TableMapping.Offer (m : TableMapping) (filter : List Criterion) (db : Database) where
  query : Select.Bound
  conditions : List Condition
  /-- The condition about leases. -/
  free : Condition
  conditions_eq : query.query.conditions = conditions ++ [free]
  isOnLeases : free.isOnLeases = true
  translates : ∃ params, (filterConditions m .sqlite filter).runOn [] = (.ok conditions, params)
  patterns : query.HasShortPatterns
  meaning : List.Forall₂ (fun c cond => Condition.Says query.params m c cond) filter conditions
  table : Table
  table?_eq : db.table? m.table = some table
  leases : LeaseTable
  row : Row
  isCandidate : row ∈ query.candidates table
  isMatch : query.isMatch leases table.definition row = .ok true

namespace EntityStore

variable {b : Backend} {filter : List Criterion} {max : UInt32}

/-- Every candidate comes from a row that the query for candidates matches. -/
lemma exists_offer_of_candidates {α : Type} [StatefulEntity α] {s : EntityStore α} {es : List α}
    {e : α} (h : s.unleasedCandidates max filter b = .ok es) (he : e ∈ es) :
    ∃ x : TableMapping.Offer s.mapping filter b.database,
      Entity.ofRow (x.row.project s.mapping.columnNames) = .ok e := by
  obtain ⟨query, t, leases, r, hq, hfits, ht, -, hcandidate, hmatch, hof⟩ :=
    exists_match_of_candidates h he
  obtain ⟨conditions, kind, place, limit, hquery, ⟨params, hrun, -⟩, hmeaning, -⟩ :=
    unleasedBinding_eq_ok hq
  exact ⟨⟨query, conditions, _, by rw [hquery], rfl, ⟨params, hrun⟩, hfits.patterns, hmeaning, t,
    ht,
    leases, r, hcandidate, hmatch⟩, hof⟩

/-- A candidate is the entity of its id as it is now, and its row meets the filter. -/
theorem current?_of_unleasedCandidates {k : StatefulKind} {s : EntityStore k.kind.Record}
    {es : List k.kind.Record} {e : k.kind.Record} (hb : b.IsReady k.kind)
    (h : s.unleasedCandidates max filter b = .ok es) (he : e ∈ es) :
    k.kind.schema.mapping.Translates filter ∧ b.current? k filter (Entity.id e) = some e := by
  obtain ⟨x, hof⟩ : ∃ x : TableMapping.Offer k.kind.schema.mapping filter b.database,
      Entity.ofRow (x.row.project k.kind.schema.mapping.columnNames) = .ok e := by
    cases k with
    | contractNegotiation => exact exists_offer_of_candidates (α := ContractNegotiation) h he
    | transferProcess => exact exists_offer_of_candidates (α := TransferProcess) h he
  obtain ⟨t, ht, hd, hstored⟩ := hb.table
  cases x.table?_eq.symm.trans ht
  rw [StatefulKind.ofRow_project] at hof
  have hmem := Select.Bound.mem_of_mem_candidates x.isCandidate
  have hvalues := StatefulKind.holdsValues_of_ofRow (hd ▸ hstored x.row hmem) hof
  -- every condition but the last one is that of a criterion, and the last one is about leases
  have hall : ∀ cond ∈ x.query.query.conditions,
      (∃ c ∈ filter, Condition.Says x.query.params k.kind.schema.mapping c cond) ∨
        cond.isOnLeases = true := by
    intro cond hcond
    rw [x.conditions_eq] at hcond
    rcases List.mem_append.mp hcond with hcond | hcond
    · exact .inl (exists_of_forall₂ x.meaning hcond)
    · exact .inr (List.mem_singleton.mp hcond ▸ x.isOnLeases)
  have hheld := (Select.Bound.isMatch_value_iff x.patterns hall hvalues hmem).mp
    ⟨x.isCandidate, x.isMatch⟩
  rw [x.conditions_eq, List.all_append, Bool.and_eq_true,
    all_isHeldAmong x.meaning hvalues] at hheld
  have hkey : x.table.key? x.row = some (.text (Entity.id e)) :=
    (Table.key?_eq_iff hd).mpr (LawfulEntity.cell_of_ofRow hof)
  refine ⟨⟨x.conditions, x.translates⟩, ?_⟩
  rw [Backend.current?, Database.row?_of_table? ht, Table.find?_of_mem hmem hkey,
    Option.filter_some, if_pos hheld.1, Option.bind_some, hof]
  rfl

end EntityStore

end LeasedStore
