/-
What look-ups by criteria answer.

* `EntityStore.mem_readRows`, `mem_readPages`: entities that a query answers come from rows;
* `EntityStore.id_of_findMatching`: the entity that is found under an id has it;
* `EntityStore.free_of_unleasedCandidates`: nobody holds an active lease on a candidate;
* `EntityStore.count_nil_of_table?`: without a criterion all rows are counted, unread.
-/
import LeasedStore.Store.ControlPlane
import LeasedStore.Proofs.Database.Search
import LeasedStore.Proofs.Entity.Lawful
import LeasedStore.Proofs.Sql.Binding
import LeasedStore.Proofs.Lease.Manager
import LeasedStore.Proofs.Store.Paging

namespace LeasedStore

namespace EntityStore

/-! ### Pages -/

section Pages

variable {α : Type} [Entity α] {s : EntityStore α} {spec : QuerySpec} {b : Backend} {e : α}
  {es : List α}

/-- An entity that a query answers in one piece comes from a row. -/
lemma mem_readRows (h : s.readRows spec b = .ok es) (he : e ∈ es) :
    ∃ query rows, s.mapping.select .sqlite spec = .ok query ∧
      b.database.select query = .ok rows ∧ ∃ r ∈ rows, Entity.ofRow r = .ok e := by
  obtain ⟨query, hq, h⟩ := Reading.bind_eq_ok.mp h
  obtain ⟨-, -, h⟩ := Reading.bind_eq_ok.mp h
  obtain ⟨rows, hr, h⟩ := Reading.bind_eq_ok.mp h
  rw [Reading.lift_apply] at h
  exact ⟨query, rows, Except.mapError_eq_ok.mp hq, Reading.database_eq_ok.mp hr,
    Except.exists_of_mem_mapM h he⟩

/-- An entity of a page is one that a query with the same filter answers in one piece. -/
lemma mem_fetchPage {page : Page α spec} (h : s.fetchPage spec b = .ok (some page)) :
    (∃ spec' : QuerySpec, spec'.filter = spec.filter ∧
      s.readRows spec' b = .ok page.entities) ∧
    ∀ rest, page.rest = some rest → rest.filter = spec.filter := by
  obtain ⟨hr, hif⟩ := fetchPage_eq_some h
  refine ⟨⟨{ spec with limit := s.pageLimit spec }, rfl, hr⟩, fun rest hrest => ?_⟩
  rw [hif] at hrest
  split at hrest
  · cases hrest
    rfl
  · cases hrest

/-- An entity of one of the pages of a query is one that a query with the same filter answers in
one piece. -/
lemma mem_readPages (h : s.readPages spec b = .ok es) (he : e ∈ es) :
    ∃ (spec' : QuerySpec) (es' : List α), spec'.filter = spec.filter ∧
      s.readRows spec' b = .ok es' ∧ e ∈ es' := by
  fun_induction readPages s spec b generalizing es with
  | case1 => cases h
  | case2 =>
      cases h
      cases he
  | case3 spec page hpage hrest =>
      obtain ⟨⟨spec', hf, hr⟩, -⟩ := mem_fetchPage hpage
      cases h
      exact ⟨spec', page.entities, hf, hr, he⟩
  | case4 spec page hpage rest hrest ih =>
      obtain ⟨⟨spec', hf, hr⟩, hrests⟩ := mem_fetchPage hpage
      cases hmore : s.readPages rest b with
      | error e => rw [hmore] at h; cases h
      | ok more =>
          rw [hmore] at h
          cases h
          rcases List.mem_append.mp he with he | he
          · exact ⟨spec', page.entities, hf, hr, he⟩
          · obtain ⟨spec', es', hf', hr', he'⟩ := ih hmore he
            exact ⟨spec', es', hf'.trans (hrests rest hrest), hr', he'⟩

end Pages

end EntityStore

/-! ### The id of an entity -/

namespace StoreKind

lemma target?_idProperty (k : StoreKind) :
    k.schema.mapping.target? k.schema.mapping.idProperty =
      some (.column ⟨k.schema.mapping.idProperty, k.schema.mapping.idColumn, .text⟩) := by
  cases k <;> rfl

lemma unqualified_idColumn (k : StoreKind) :
    unqualified (k.schema.mapping.table ++ "." ++ k.schema.mapping.idColumn) =
      k.schema.mapping.idColumn := by
  cases k <;> decide

end StoreKind

/-- A condition that says that the id equals a text. -/
lemma Condition.says_id {k : StoreKind} {params : List Param} {id : String} {cond : Condition}
    (h : cond.Says params k.schema.mapping (.equals k.schema.mapping.idProperty (.text id))) :
    ∃ p : Placeholder, cond = .compare (.column k.schema.mapping.idColumn) .equal p ∧
      p.cell params = .text id := by
  cases h with
  | compare target ht e he op ho hlike p hp =>
      cases ho
      have hcol := k.target?_idProperty.symm.trans ht
      cases hcol
      cases he
      obtain ⟨v, hv, hp⟩ := hp
      cases hv
      refine ⟨p, rfl, ?_⟩
      rw [Placeholder.cell, hp]
      rfl
  | oneOf target ht e he ho ps hp => cases ho
  | never target ht ho hempty => cases ho

namespace EntityStore

variable {b : Backend} {id : String}

/-- The entity that is found under an id has it. -/
theorem id_of_findMatching {k : StoreKind} {s : EntityStore k.Record} {filter : List Criterion}
    {e : k.Record} (h : s.findMatching id filter b = .ok (some e)) : Entity.id e = id := by
  obtain ⟨es, hes, h⟩ := Reading.bind_eq_ok.mp h
  obtain ⟨-, -, hes⟩ := Reading.bind_eq_ok.mp hes
  have he : e ∈ es := List.mem_of_head? (Except.ok.inj h)
  obtain ⟨spec, es', hf, hr, he⟩ := mem_readPages hes he
  obtain ⟨query, rows, hq, hsel, r, hr, hof⟩ := mem_readRows hr he
  obtain ⟨conditions, order, limit, offset, hquery, hmeaning, -⟩ := TableMapping.select_eq_ok hq
  have hproj : query.query.projection = .columns k.schema.mapping.columnNames := by
    rw [hquery]; rfl
  obtain ⟨leases, r', -, rfl, hheld⟩ := Database.exists_row_of_select hproj hsel hr
  -- the condition on the id is the last one, so that no other one decides it
  rw [hf] at hmeaning
  obtain ⟨others, last, hconditions, -, hlast⟩ := exists_of_forall₂_concat hmeaning
  obtain ⟨p, rfl, hp⟩ := Condition.says_id hlast
  have hlast : Condition.compare (.column k.schema.mapping.idColumn) .equal p ∈
      query.query.undecided := by
    have hall : query.query.conditions =
        others ++ [.compare (.column k.schema.mapping.idColumn) .equal p] := by
      rw [hquery]
      exact hconditions
    exact Select.mem_undecided_of_last hall rfl rfl
  have hcell : r'.cell k.schema.mapping.idColumn = .text (Entity.id e) := by
    rw [← Row.cell_project k.idColumn_mem_columnNames]
    exact LawfulEntity.cell_of_ofRow hof
  have hequal := Except.ok.inj (hheld _ hlast)
  rw [Placeholder.datum, hp, hcell] at hequal
  exact Comparison.equal_holds_text.mp hequal

/-- Whoever looks for leases that are free finds those without an active lease. -/
lemma free_of_isFree {lt : LeaseTable} {kind : String} {now : Int64} {l : Lease}
    (hl : lt.find? ⟨kind, id⟩ = some l) (h : lt.isFree (.text kind) (.text id) (.int now) = true) :
    ¬ l.IsActive now := by
  intro hactive
  have hnone : lt.active? now ⟨kind, id⟩ = none := Option.isNone_iff_eq_none.mp h
  rw [LeaseTable.active?, hl, Option.filter_some, if_pos (by simpa using hactive)] at hnone
  cases hnone

section Candidates

variable {α : Type} [StatefulEntity α] {s : EntityStore α}
  {filter : List Criterion} {max : UInt32} {es : List α} {e : α}

/-- The query for candidates: its conditions say what the criteria say, and its last one is that
nobody has an active lease. -/
lemma unleasedBinding_eq_ok {now : Int64} {query : Select.Bound}
    (h : Select.Bound.of (s.unleasedBinding .sqlite max filter now) = .ok query) :
    ∃ conditions kind place limit,
      query.query = ⟨.columns s.mapping.columnNames, s.mapping.table,
        conditions ++ [.unleased (s.mapping.table ++ "." ++ s.mapping.idColumn) kind place],
        [(StatefulEntity.stateTimestampColumn α, .ascending), (s.mapping.idColumn, .ascending)],
        some limit, none⟩ ∧
      (∃ params, (filterConditions s.mapping .sqlite filter).runOn [] = (.ok conditions, params) ∧
        params <+: query.params) ∧
      List.Forall₂ (fun c cond => cond.Says query.params s.mapping c) filter conditions ∧
      kind.param? query.params = some (.text s.kind) ∧
      place.param? query.params = some (.int now) := by
  have hrun := Select.Bound.of_eq_ok.mp h
  obtain ⟨conditions, ps₁, hconditions, hrun⟩ := Binding.bind_eq_ok.mp hrun
  obtain ⟨free, ps₂, hfree, hrun⟩ := Binding.bind_eq_ok.mp hrun
  obtain ⟨limit, ps₃, hl, hrun⟩ := Binding.bind_eq_ok.mp hrun
  obtain ⟨hq, hps⟩ := Binding.pure_eq_ok.mp hrun
  obtain ⟨kind, ps₄, hkind, hfree⟩ := Binding.bind_eq_ok.mp hfree
  obtain ⟨place, ps₅, hplace, hfree⟩ := Binding.bind_eq_ok.mp hfree
  obtain ⟨rfl, rfl⟩ := Binding.pure_eq_ok.mp hfree
  obtain ⟨-, hmeaning⟩ := forall₂_of_filterConditions hconditions
  obtain ⟨hp₄, hkind⟩ := Binding.param?_of_register hkind
  obtain ⟨hp₅, hplace⟩ := Binding.param?_of_register hplace
  obtain ⟨hp₃, -⟩ := Binding.param?_of_register hl
  subst hps
  -- what was registered for the filter keeps its numbers behind the kind, the instant and the limit
  have hprefix : ps₁ <+: query.params := hp₄.trans (hp₅.trans hp₃)
  refine ⟨conditions, kind, place, limit, hq.symm, ⟨ps₁, hconditions, hprefix⟩, ?_,
    Placeholder.param?_of_prefix hkind (hp₅.trans hp₃), Placeholder.param?_of_prefix hplace hp₃⟩
  exact hmeaning.imp fun _ _ hs => hs.of_prefix hprefix

lemma leasesOf_of_unleasedBinding {now : Int64} {query : Select.Bound}
    (h : Select.Bound.of (s.unleasedBinding .sqlite max filter now) = .ok query) (db : Database) :
    db.leasesOf query.query = db.leaseTable := by
  obtain ⟨conditions, kind, place, limit, hquery, -⟩ := unleasedBinding_eq_ok h
  rw [Database.leasesOf, hquery, if_pos (by simp [Condition.isOnLeases])]

/-- A candidate comes from a row that the query for candidates matches, which is within the
limits. -/
lemma exists_match_of_candidates (h : s.unleasedCandidates max filter b = .ok es) (he : e ∈ es) :
    ∃ query t leases r,
      Select.Bound.of (s.unleasedBinding .sqlite max filter b.clock.now) = .ok query ∧ query.Fits ∧
      b.database.table? s.mapping.table = some t ∧ b.database.leaseTable = .ok leases ∧
      r ∈ query.candidates t ∧ query.isMatch leases t.definition r = .ok true ∧
      Entity.ofRow (r.project s.mapping.columnNames) = .ok e := by
  rw [unleasedCandidates] at h
  split at h
  · cases h
    cases he
  · obtain ⟨now, hnow, h⟩ := Reading.bind_eq_ok.mp h
    cases hnow
    obtain ⟨query, hq, h⟩ := Reading.bind_eq_ok.mp h
    obtain ⟨-, -, h⟩ := Reading.bind_eq_ok.mp h
    obtain ⟨rows, hsel, h⟩ := Reading.bind_eq_ok.mp h
    have hq : Select.Bound.of (s.unleasedBinding .sqlite max filter b.clock.now) = .ok query :=
      Except.mapError_eq_ok.mp hq
    obtain ⟨conditions, kind, place, limit, hquery, -⟩ := unleasedBinding_eq_ok hq
    obtain ⟨r, hr, hof⟩ := Except.exists_of_mem_mapM h he
    have hprojection : query.query.projection = .columns s.mapping.columnNames := by rw [hquery]
    have hsel := Reading.database_eq_ok.mp hsel
    obtain ⟨t, leases, r', ht, hleases, rfl, hcandidate, hmatch⟩ :=
      Database.exists_match_of_select hprojection hsel hr
    refine ⟨query, t, leases, r', hq, Database.fits_of_select hprojection hsel hr, ?_, ?_,
      hcandidate,
      hmatch, hof⟩
    · rw [hquery] at ht
      exact ht
    · rwa [leasesOf_of_unleasedBinding hq] at hleases

/-- Nobody holds an active lease on a candidate. -/
lemma free_of_candidates [LawfulEntity α] (hcol : s.mapping.idColumn ∈ s.mapping.columnNames)
    (hid : unqualified (s.mapping.table ++ "." ++ s.mapping.idColumn) = s.mapping.idColumn)
    (h : s.unleasedCandidates max filter b = .ok es) (he : e ∈ es) {l : Lease}
    (hl : b.database.lease? ⟨s.kind, Entity.id e⟩ = some l) : ¬ l.IsActive b.clock.now := by
  obtain ⟨query, t, leases, r, hq, -, -, hleases, -, hmatch, hof⟩ := exists_match_of_candidates h he
  obtain ⟨conditions, kind, place, limit, hquery, -, -, hkind, hplace⟩ := unleasedBinding_eq_ok hq
  have hmem : .unleased (s.mapping.table ++ "." ++ s.mapping.idColumn) kind place ∈
      query.query.conditions := by
    rw [hquery]
    exact List.mem_append_right _ (List.mem_singleton_self _)
  have hfree := Except.ok.inj
    (Select.Bound.holds_of_isMatch hmatch _ (Select.mem_undecided_of_column?_none hmem rfl))
  have hcell : r.cell s.mapping.idColumn = .text (Entity.id e) := by
    rw [← Row.cell_project hcol]
    exact LawfulEntity.cell_of_ofRow hof
  rw [hid, hcell, Placeholder.cell, hkind, Placeholder.cell, hplace] at hfree
  obtain ⟨lt, hlt, hfind⟩ := Database.leases_of_lease? hl
  rw [Database.leaseTable_of_leases hlt] at hleases
  cases hleases
  exact free_of_isFree hfind hfree

end Candidates

/-- Nobody holds an active lease on a candidate. -/
theorem free_of_unleasedCandidates {k : StatefulKind} {s : EntityStore k.kind.Record}
    {filter : List Criterion} {max : UInt32} {es : List k.kind.Record} {e : k.kind.Record}
    (h : s.unleasedCandidates max filter b = .ok es) (he : e ∈ es) {l : Lease}
    (hl : b.database.lease? ⟨k.kind.schema.kind, Entity.id e⟩ = some l) :
    ¬ l.IsActive b.clock.now := by
  have hcol := k.kind.idColumn_mem_columnNames
  have hid := k.kind.unqualified_idColumn
  cases k with
  | contractNegotiation =>
      exact @free_of_candidates _ ContractNegotiation _ _ _ _ _ _ _ hcol hid h he l hl
  | transferProcess => exact @free_of_candidates _ TransferProcess _ _ _ _ _ _ _ hcol hid h he l hl

end EntityStore

/-! ### Counts -/

/-- Without a criterion all rows are counted, and none of them is read. -/
lemma EntityStore.count_nil_of_table? {k : StoreKind} {b : Backend} {t : Table}
    (s : EntityStore k.Record) (ho : b.isOpen = true)
    (ht : b.database.table? k.schema.mapping.table = some t) :
    s.count [] b = .ok t.rows.length := by
  have hall : ∀ query : Select.Bound, query.Fits → query.query.conditions = [] →
      query.query.table = k.schema.mapping.table → b.database.count query = .ok t.rows.length := by
    intro query hfits hq htable
    have hleases : b.database.leasesOf query.query = .ok .empty := by
      rw [Database.leasesOf, hq]
      rfl
    have hrows : query.candidates t = t.rows := by
      rw [Select.Bound.candidates, Select.isRefuted, hq]
      rfl
    have hmatch : ∀ r ∈ query.candidates t, query.isMatch .empty t.definition r = .ok true := by
      intro r _
      rw [Select.Bound.isMatch, Select.scanned, Select.undecided, hq]
      simp [Condition.allHold]
    rw [Database.count_eq_filter (p := fun _ => true) hfits (by rwa [htable]) hleases hmatch, hrows,
      List.filter_true]
  exact (Reading.bind_of_ok (Reading.connect_of_open ho) _).trans
    (Reading.database_of_ok (hall _ ⟨⟨Nat.zero_le _, Nat.zero_le _⟩, List.forall_mem_nil _⟩
      rfl rfl))

end LeasedStore
