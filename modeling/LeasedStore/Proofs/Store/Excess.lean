/-
Filters that ask for too much.

A thousand criteria are more conditions than a database joins.  The store puts them into a statement
all the same, since it can be put together, and it is the database that refuses it.  A look-up and a
query for candidates have a condition more than their filter, and so are refused one criterion
earlier.

* `Criterion.AreTooMany`: are there too many criteria, with so many conditions behind them?
* `TableMapping.select_of_tooMany`, `EntityStore.readAll_of_tooMany`, `count_of_tooMany`,
  `findMatching_of_tooMany`, `unleasedCandidates_of_tooMany`: what is refused then;
* `EntityStore.readAll_of_limit_zero`: a query for no rows is not made at all;
* `TableMapping.translates_replicate`, `fits_of_replicate`: one criterion many times over.
-/
import LeasedStore.Proofs.Store.Limits
import LeasedStore.Proofs.Store.Paging

namespace LeasedStore

/-- Are there too many criteria for a database, with so many conditions behind them, though places
enough? -/
structure Criterion.AreTooMany (filter : List Criterion) (behind : ℕ) : Prop where
  criteria : maxNesting ≤ filter.length + behind
  operands : demand filter + 2 * behind + 3 ≤ maxPlaces

lemma Criterion.areTooMany_replicate {n behind : ℕ} (property text : String)
    (hn : maxNesting ≤ n + behind) (hplaces : n * 2 + 2 * behind + 3 ≤ maxPlaces) :
    AreTooMany (List.replicate n (.equals property (.text text))) behind where
  criteria := by rwa [List.length_replicate]
  operands := by rwa [demand_replicate]

/-! ### Statements -/

namespace Select.Bound

variable {b : Bound} {m : TableMapping} {filter : List Criterion} {conditions : List Condition}

/-- A statement has too many conditions if those of its criteria are too many together with those
behind them. -/
lemma tooDeep_of_tooMany (behind : List Condition) (h : Criterion.AreTooMany filter behind.length)
    (hq : b.query.conditions = conditions ++ behind)
    (hmeaning : List.Forall₂ (fun c cond => Condition.Says b.params m c cond) filter conditions)
    (hplaces : (behind.flatMap Condition.placeholders).length +
      (b.query.limit.toList ++ b.query.offset.toList).length ≤ 3) :
    b.query.placeholders.length ≤ maxPlaces ∧ maxNesting < b.query.nesting := by
  have hcriteria := h.criteria
  have hoperands := h.operands
  have hlength : (conditions ++ behind).length = filter.length + behind.length := by
    rw [List.length_append, hmeaning.length_eq]
  constructor
  · have hbefore := Condition.length_flatMap_placeholders_le hmeaning
    rw [Select.placeholders, hq, List.flatMap_append, List.length_append, List.length_append]
    omega
  · have hne : conditions ++ behind ≠ [] := by
      intro hnil
      rw [← hlength, hnil] at hcriteria
      exact absurd hcriteria (by decide)
    have hjoined := Condition.length_lt_joined hne
    rw [hlength] at hjoined
    rw [Select.nesting, hq]
    exact Nat.lt_of_le_of_lt hcriteria hjoined

end Select.Bound

namespace TableMapping

variable {m : TableMapping} {spec : QuerySpec} {query : Select.Bound} {filter : List Criterion}

/-- A query with too many criteria is refused, whatever the tables hold. -/
theorem select_of_tooMany (h : Criterion.AreTooMany spec.filter 0)
    (hq : m.select .sqlite spec = .ok query) (db : Database) :
    db.select query = .error .tooDeep := by
  obtain ⟨conditions, order, limit, offset, hquery, hmeaning, -⟩ := select_eq_ok hq
  have hdeep := Select.Bound.tooDeep_of_tooMany [] h (by rw [hquery, List.append_nil])
    hmeaning (by rw [hquery]; exact Nat.le_succ 2)
  exact Database.select_of_tooDeep hdeep.1 hdeep.2 db

/-- So is a count. -/
theorem count_of_tooMany (h : Criterion.AreTooMany filter 0)
    (hq : m.count .sqlite filter = .ok query) (db : Database) :
    db.count query = .error .tooDeep := by
  obtain ⟨conditions, hquery, hrun⟩ := count_eq_ok hq
  have hdeep := Select.Bound.tooDeep_of_tooMany [] h (by rw [hquery, List.append_nil])
    (forall₂_of_filterConditions hrun).2 (by rw [hquery]; exact Nat.zero_le 3)
  exact Database.count_of_tooDeep hdeep.1 hdeep.2 db

end TableMapping

/-! ### Queries -/

namespace EntityStore

section Queries

variable {α : Type} [Entity α] {s : EntityStore α} {spec : QuerySpec} {b : Backend}
  {query : Select.Bound} {filter : List Criterion}

/-- The database refuses a query with too many criteria. -/
lemma readRows_of_tooMany (ho : b.isOpen = true) (h : Criterion.AreTooMany spec.filter 0)
    (hq : s.mapping.select .sqlite spec = .ok query) :
    s.readRows spec b = .error (.database .tooDeep) := by
  have hlift : Reading.lift ((s.mapping.select .sqlite spec).mapError .invalidQuery) b =
      .ok query := Except.mapError_eq_ok.mpr hq
  have hselect : Reading.database (fun db => db.select query) b = .error (.database .tooDeep) :=
    congrArg StoreError.ofDatabase (TableMapping.select_of_tooMany h hq b.database)
  rw [readRows, Reading.bind_of_ok hlift, Reading.bind_of_ok (Reading.connect_of_open ho),
    Reading.bind_of_error hselect]

/-- So it refuses the first page. -/
lemma fetchPage_of_tooMany (ho : b.isOpen = true) (h : Criterion.AreTooMany spec.filter 0)
    (hq : s.mapping.select .sqlite spec = .ok query) (hlimit : spec.limit ≠ 0) :
    s.fetchPage spec b = .error (.database .tooDeep) := by
  obtain ⟨query', hq'⟩ := TableMapping.exists_select hq spec.offset (s.pageLimit spec)
  have hfirst :
      Criterion.AreTooMany ({ spec with limit := s.pageLimit spec } : QuerySpec).filter 0 :=
    h
  rw [fetchPage, if_neg hlimit, Reading.bind_of_error (readRows_of_tooMany ho hfirst hq')]

/-- A stream of a query with too many criteria ends with the refusal. -/
theorem poll_of_tooMany (ho : b.isOpen = true) (h : Criterion.AreTooMany spec.filter 0)
    (hq : s.mapping.select .sqlite spec = .ok query) (hlimit : spec.limit ≠ 0) :
    s.poll ⟨[], some spec⟩ b = (some (.error (.database .tooDeep)), .ended α) := by
  rw [poll]
  dsimp only
  rw [fetchPage_of_tooMany ho h hq hlimit]

theorem readAll_of_tooMany (ho : b.isOpen = true) (h : Criterion.AreTooMany spec.filter 0)
    (hq : s.mapping.select .sqlite spec = .ok query) (hlimit : spec.limit ≠ 0) :
    s.readAll spec b = .error (.database .tooDeep) := by
  rw [readAll_of_select hq, readPages, fetchPage_of_tooMany ho h hq hlimit]

/-- A query for no rows is not made at all. -/
theorem readAll_of_limit_zero (hq : s.mapping.select .sqlite spec = .ok query)
    (hlimit : spec.limit = 0) : s.readAll spec b = .ok [] := by
  have hpage : s.fetchPage spec b = .ok none := by
    rw [fetchPage, if_pos hlimit]
    rfl
  rw [readAll_of_select hq, readPages, hpage]

/-- The database refuses a count with too many criteria. -/
theorem count_of_tooMany (ho : b.isOpen = true) (h : Criterion.AreTooMany filter 0)
    (hq : s.mapping.count .sqlite filter = .ok query) :
    s.count filter b = .error (.database .tooDeep) := by
  have hlift : Reading.lift ((s.mapping.count .sqlite filter).mapError .invalidQuery) b =
      .ok query := Except.mapError_eq_ok.mpr hq
  rw [count, Reading.bind_of_ok hlift, Reading.bind_of_ok (Reading.connect_of_open ho)]
  exact congrArg StoreError.ofDatabase (TableMapping.count_of_tooMany h hq b.database)

end Queries

/-! ### Look-ups and candidates -/

/-- A look-up has one condition more than its filter. -/
theorem findMatching_of_tooMany {k : StoreKind} {s : EntityStore k.Record} {b : Backend}
    {filter : List Criterion} (ho : b.isOpen = true) (h : Criterion.AreTooMany filter 1)
    (hf : k.schema.mapping.Translates filter) (id : String) :
    s.findMatching id filter b = .error (.database .tooDeep) := by
  obtain ⟨query, hq⟩ := hf.exists_lookUp id
  have hcriteria := h.criteria
  have hoperands := h.operands
  have hmore : Criterion.AreTooMany
      (firstOf (filter ++ [.equals k.schema.mapping.idProperty (.text id)])).filter 0 := by
    refine ⟨?_, ?_⟩
    · rwa [firstOf, List.length_append, List.length_singleton, Nat.add_zero]
    · have hid : Criterion.demand [.equals k.schema.mapping.idProperty (.text id)] = 2 := rfl
      rw [firstOf, Criterion.demand_append, hid]
      omega
  have hlimit : (firstOf (filter ++ [.equals k.schema.mapping.idProperty (.text id)])).limit ≠ 0 :=
    show (1 : UInt32) ≠ 0 by decide
  exact Reading.bind_of_error (readAll_of_tooMany (s := s) ho hmore hq hlimit) _

/-- So does a query for candidates. -/
theorem unleasedCandidates_of_tooMany {α : Type} [StatefulEntity α] {s : EntityStore α}
    {b : Backend}
    {filter : List Criterion} {max : UInt32} {query : Select.Bound} (ho : b.isOpen = true)
    (h : Criterion.AreTooMany filter 1) (hmax : max ≠ 0)
    (hq : Select.Bound.of (s.unleasedBinding .sqlite max filter b.clock.now) = .ok query) :
    s.unleasedCandidates max filter b = .error (.database .tooDeep) := by
  obtain ⟨conditions, kind, place, limit, hquery, -, hmeaning, -⟩ := unleasedBinding_eq_ok hq
  have hdeep := Select.Bound.tooDeep_of_tooMany [_] h (by rw [hquery]) hmeaning
    (by rw [hquery]; exact Nat.le_refl 3)
  have hlift : Reading.lift ((Select.Bound.of
      (s.unleasedBinding .sqlite max filter b.clock.now)).mapError .invalidQuery) b = .ok query :=
    Except.mapError_eq_ok.mpr hq
  have hselect : Reading.database (fun db => db.select query) b = .error (.database .tooDeep) :=
    congrArg StoreError.ofDatabase (Database.select_of_tooDeep hdeep.1 hdeep.2 b.database)
  rw [unleasedCandidates, if_neg hmax, Reading.bind_of_ok (Reading.now_apply b),
    Reading.bind_of_ok hlift, Reading.bind_of_ok (Reading.connect_of_open ho),
    Reading.bind_of_error hselect]

end EntityStore

/-! ### One criterion many times over -/

namespace TableMapping

variable {k : StoreKind} {id : String} {n : ℕ} {spec : QuerySpec} {query : Select.Bound}

/-- However often it is said that the id is a text, it can be put into conditions. -/
lemma translates_replicate (k : StoreKind) (id : String) (n : ℕ) :
    k.schema.mapping.Translates
      (List.replicate n (.equals k.schema.mapping.idProperty (.text id))) := by
  suffices hrun : ∀ params, ∃ conditions params', (filterConditions k.schema.mapping .sqlite
      (List.replicate n (.equals k.schema.mapping.idProperty (.text id)))).runOn params =
        (.ok conditions, params') from hrun []
  induction n with
  | zero => exact fun params => ⟨[], params, rfl⟩
  | succ n ih =>
      intro params
      obtain ⟨conditions, params', hrest⟩ := ih (params ++ [.text id])
      exact ⟨_, _, filterConditions_append (filterConditions_id k id params) hrest⟩

/-- Up to the last level there is room for it. -/
theorem fits_of_replicate (hn : n < maxNesting) (hfilter : spec.filter =
      List.replicate n (.equals k.schema.mapping.idProperty (.text id)))
    (hq : k.schema.mapping.select .sqlite spec = .ok query) : query.Fits := by
  obtain ⟨whole, -, -, hrun, -, -⟩ := select_part hq
  obtain ⟨-, hmeaning⟩ := forall₂_of_filterConditions hrun
  have hid : ∀ cond ∈ whole.query.conditions, ∃ p : Placeholder,
      cond = .compare (.column k.schema.mapping.idColumn) .equal p := fun cond hcond => by
    obtain ⟨c, hc, hsays⟩ := exists_of_forall₂ hmeaning hcond
    rw [hfilter] at hc
    cases List.eq_of_mem_replicate hc
    obtain ⟨p, hp, -⟩ := Condition.says_id hsays
    exact ⟨p, hp⟩
  have hlength : whole.query.conditions.length = n := by
    rw [← hmeaning.length_eq, hfilter, List.length_replicate]
  refine (fits_select_iff hrun hq).mpr ⟨?_, ?_, fun cond hcond => ?_⟩
  -- each of the criteria takes two places at most, which is far below the bound
  · have hplaces := Condition.length_flatMap_placeholders_le hmeaning
    have hdemand : Criterion.demand spec.filter = n * 2 := by
      rw [hfilter, Criterion.demand_replicate]
      rfl
    have hmax : maxPlaces = 32766 := rfl
    have hlevels : maxNesting = 1000 := rfl
    omega
  -- the levels are those of the conditions, one for each
  · rcases eq_or_ne whole.query.conditions [] with hnil | hne
    · rw [hnil]
      exact Nat.zero_le _
    · rw [Condition.joined_of_nesting_eq_two (fun cond hcond => ?_) hne, hlength]
      · exact hn
      · obtain ⟨p, rfl⟩ := hid cond hcond
        rfl
  · obtain ⟨p, rfl⟩ := hid cond hcond
    rfl

end TableMapping

end LeasedStore
