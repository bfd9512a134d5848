/-
The statements that a store makes of a filter, and the room that they need.

A look-up puts a condition on the id behind those of the filter, and the query for candidates one
about leases, in which there is a query inside.  So whatever filter candidates were found for, there
is room for the look-up of any of them.

* `TableMapping.Translates`: can a filter be put into conditions?
* `TableMapping.FitsLookUp`, `StatefulKind.FitsOffer`: are look-ups and queries for candidates
  within the limits?
* `TableMapping.fitsLookUp_of_haveRoom`, `fitsLookUp_of_isModest`, `FitsLookUp.fits`: what a look-up
  needs, which is more than a query with the filter alone;
* `EntityStore.fits_offer_iff`, `StatefulKind.fitsOffer_of_isModest`: what a query for candidates
  needs;
* `EntityStore.fitsLookUp_of_unleasedCandidates`: where candidates are found, they can be looked up.
-/
import LeasedStore.Proofs.Query.Limits
import LeasedStore.Proofs.Store.Search

namespace LeasedStore

namespace TableMapping

variable {m : TableMapping} {filter : List Criterion} {conditions : List Condition}
  {params : List Param}

/-! ### Filters that translate -/

/-- Can a filter be put into conditions on a table? -/
def Translates (m : TableMapping) (filter : List Criterion) : Prop :=
  ∃ conditions params, (filterConditions m .sqlite filter).runOn [] = (.ok conditions, params)

/-- That the id is a text as a condition. -/
lemma filterConditions_id (k : StoreKind) (id : String) (params : List Param) :
    (filterConditions k.schema.mapping .sqlite
      [.equals k.schema.mapping.idProperty (.text id)]).runOn params =
        (.ok [.compare (.column k.schema.mapping.idColumn) .equal ⟨params.length + 1⟩],
          params ++ [.text id]) := by
  have hcondition : ((Criterion.equals k.schema.mapping.idProperty (.text id)).condition
      k.schema.mapping .sqlite).runOn params =
        (.ok (.compare (.column k.schema.mapping.idColumn) .equal ⟨params.length + 1⟩),
          params ++ [.text id]) := by
    rw [Criterion.condition, Criterion.equals, k.target?_idProperty]
    rfl
  exact Binding.bind_eq_ok.mpr ⟨_, _, hcondition, rfl⟩

/-- There is a query for a filter that translates, if rows can be sorted as it says. -/
lemma Translates.exists_select (spec : QuerySpec) {order : List (String × SortOrder)}
    (h : m.Translates spec.filter) (ho : m.order spec = .ok order) :
    ∃ query, m.select .sqlite spec = .ok query := by
  obtain ⟨conditions, params, hc⟩ := h
  exact ⟨⟨_, _⟩, Select.Bound.of_eq_ok.mpr (Binding.bind_eq_ok.mpr ⟨conditions, params, hc,
    Binding.bind_eq_ok.mpr ⟨order, params, Binding.lift_eq_ok.mpr ⟨ho, rfl⟩, rfl⟩⟩)⟩

lemma Translates.exists_count (h : m.Translates filter) :
    ∃ query, m.count .sqlite filter = .ok query := by
  obtain ⟨conditions, params, hc⟩ := h
  exact ⟨⟨_, _⟩, Select.Bound.of_eq_ok.mpr (Binding.bind_eq_ok.mpr ⟨conditions, params, hc, rfl⟩)⟩

lemma Translates.concat_id {k : StoreKind} (h : k.schema.mapping.Translates filter) (id : String) :
    k.schema.mapping.Translates (filter ++ [.equals k.schema.mapping.idProperty (.text id)]) := by
  obtain ⟨conditions, params, hc⟩ := h
  exact ⟨_, _, filterConditions_append hc (filterConditions_id k id params)⟩

lemma Translates.exists_lookUp {k : StoreKind} (h : k.schema.mapping.Translates filter)
    (id : String) :
    ∃ query, k.schema.mapping.select .sqlite (EntityStore.firstOf
      (filter ++ [.equals k.schema.mapping.idProperty (.text id)])) = .ok query :=
  exists_select (EntityStore.firstOf _) (h.concat_id id) rfl

/-! ### Look-ups by id -/

/-- Are the queries for an id and a filter within the limits of the database? -/
def FitsLookUp (m : TableMapping) (filter : List Criterion) : Prop :=
  ∀ id query, m.select .sqlite
    (EntityStore.firstOf (filter ++ [.equals m.idProperty (.text id)])) = .ok query → query.Fits

/-- A look-up needs places for the id, the limit and the offset, and one more level. -/
lemma fitsLookUp_of_haveRoom {k : StoreKind}
    (h : (filterConditions k.schema.mapping .sqlite filter).runOn [] = (.ok conditions, params))
    (hroom : Condition.HaveRoom conditions params 3 1) : k.schema.mapping.FitsLookUp filter := by
  intro id query hq
  have hbound : ∀ c ∈ conditions, c.IsBound params := fun cond hcond => by
    obtain ⟨c, -, hc⟩ := exists_of_forall₂ (forall₂_of_filterConditions h).2 hcond
    exact hc.isBound
  have hmore : Condition.HaveRoom conditions (params ++ [.text id]) 3 1 :=
    (Condition.haveRoom_of_prefix hbound (List.prefix_append ..)).mpr hroom
  refine (fits_select_iff (filterConditions_append h (filterConditions_id k id params)) hq).mpr
    (hmore.concat ?_ rfl)
  change 2 + 0 ≤ maxNesting - 1
  decide

/-- Where there is room for look-ups, there is room for queries with the filter alone. -/
lemma FitsLookUp.fits {k : StoreKind} {spec : QuerySpec} {query : Select.Bound}
    (h : k.schema.mapping.FitsLookUp filter) (hfilter : spec.filter = filter)
    (hq : k.schema.mapping.select .sqlite spec = .ok query) : query.Fits := by
  subst hfilter
  obtain ⟨whole, -, -, hrun, -, -⟩ := select_part hq
  have hbound : ∀ c ∈ whole.query.conditions, c.IsBound whole.params := fun cond hcond => by
    obtain ⟨c, -, hc⟩ := exists_of_forall₂ (forall₂_of_filterConditions hrun).2 hcond
    exact hc.isBound
  obtain ⟨query', hq'⟩ := Translates.exists_lookUp ⟨_, _, hrun⟩ ""
  have hroom := (fits_select_iff (filterConditions_append hrun (filterConditions_id k "" _)) hq').mp
    (h "" query' hq')
  have hbefore := (Condition.haveRoom_of_prefix hbound (List.prefix_append ..)).mp
    (Condition.haveRoom_of_concat hroom)
  exact (fits_select_iff hrun hq).mpr (hbefore.mono (Nat.le_add_right ..) (Nat.zero_le _))

theorem fitsLookUp_of_isModest {k : StoreKind} (h : k.schema.mapping.Translates filter)
    (hmodest : k.schema.mapping.IsModest filter 3 1) : k.schema.mapping.FitsLookUp filter := by
  obtain ⟨conditions, params, hc⟩ := h
  exact fitsLookUp_of_haveRoom hc (hmodest.haveRoom (forall₂_of_filterConditions hc).2)

end TableMapping

/-! ### Queries for candidates -/

namespace StatefulKind

variable {k : StatefulKind} {filter : List Criterion} {conditions : List Condition}
  {params : List Param}

/-- Are the queries for candidates that match a filter within the limits of the database? -/
def FitsOffer (k : StatefulKind) (filter : List Criterion) : Prop :=
  ∀ (s : EntityStore k.kind.Record) (max : UInt32) (now : Int64) (query : Select.Bound),
    Select.Bound.of (s.unleasedBinding .sqlite max filter now) = .ok query → query.Fits

end StatefulKind

namespace EntityStore

variable {α : Type} [StatefulEntity α] {s : EntityStore α} {filter : List Criterion} {max : UInt32}
  {now : Int64} {query : Select.Bound} {conditions : List Condition} {params : List Param}

/-- A query for candidates needs places for the kind, the instant and the limit, and six more
levels: its condition about leases is one, and the query inside is five. -/
lemma fits_offer_iff
    (h : (filterConditions s.mapping .sqlite filter).runOn [] = (.ok conditions, params))
    (hq : Select.Bound.of (s.unleasedBinding .sqlite max filter now) = .ok query) :
    query.Fits ↔ Condition.HaveRoom conditions params 3 6 := by
  obtain ⟨conditions', kind, place, limit, hquery, ⟨params', hrun, hprefix⟩, -⟩ :=
    unleasedBinding_eq_ok hq
  cases hrun.symm.trans h
  have hmeaning := (forall₂_of_filterConditions h).2
  have hbound : ∀ c ∈ conditions, c.IsBound params := fun cond hcond => by
    obtain ⟨c, -, hc⟩ := exists_of_forall₂ hmeaning hcond
    exact hc.isBound
  have hconditions : query.query.conditions = conditions ++
      [.unleased (s.mapping.table ++ "." ++ s.mapping.idColumn) kind place] := by rw [hquery]
  have hinner : query.query.innerNesting = 5 :=
    Select.innerNesting_of_concat hconditions fun cond hcond => by
      obtain ⟨c, -, hc⟩ := exists_of_forall₂ hmeaning hcond
      exact hc.innerNesting_eq
  have hlimit : (query.query.limit.toList ++ query.query.offset.toList).length = 1 := by
    rw [hquery]
    rfl
  -- the condition about leases takes two places more, and the limit takes one
  rw [Select.Bound.fits_iff_haveRoom, hinner, hlimit, hconditions,
    ← Condition.haveRoom_of_prefix hbound hprefix]
  exact ⟨fun hroom => Condition.haveRoom_of_concat hroom, fun hroom =>
    hroom.concat (show 7 + 5 ≤ maxNesting - 1 by decide) rfl⟩

end EntityStore

namespace StatefulKind

variable {k : StatefulKind} {filter : List Criterion}

/-- A modest filter has room for queries for candidates. -/
theorem fitsOffer_of_isModest (h : k.kind.schema.mapping.Translates filter)
    (hmodest : k.kind.schema.mapping.IsModest filter 3 6) : k.FitsOffer filter := by
  obtain ⟨conditions, params, hc⟩ := h
  have hroom := hmodest.haveRoom (forall₂_of_filterConditions hc).2
  intro s max now query hq
  cases k <;> exact (EntityStore.fits_offer_iff hc hq).mpr hroom

end StatefulKind

namespace EntityStore

variable {filter : List Criterion} {max : UInt32} {b : Backend}

/-- Where candidates are found, the query for them was within the limits. -/
lemma haveRoom_of_unleasedCandidates {α : Type} [StatefulEntity α] {s : EntityStore α} {es : List α}
    {e : α} (h : s.unleasedCandidates max filter b = .ok es) (he : e ∈ es) :
    ∃ conditions params, (filterConditions s.mapping .sqlite filter).runOn [] =
      (.ok conditions, params) ∧ Condition.HaveRoom conditions params 3 6 := by
  obtain ⟨query, t, leases, r, hq, hfits, -⟩ := exists_match_of_candidates h he
  obtain ⟨conditions, kind, place, limit, -, ⟨params, hrun, -⟩, -⟩ := unleasedBinding_eq_ok hq
  exact ⟨conditions, params, hrun, (fits_offer_iff hrun hq).mp hfits⟩

/-- Where candidates are found, they can be looked up. -/
theorem fitsLookUp_of_unleasedCandidates {k : StatefulKind} {s : EntityStore k.kind.Record}
    {es : List k.kind.Record} {e : k.kind.Record} (h : s.unleasedCandidates max filter b = .ok es)
    (he : e ∈ es) : k.kind.schema.mapping.FitsLookUp filter := by
  obtain ⟨conditions, params, hrun, hroom⟩ : ∃ conditions params,
      (filterConditions k.kind.schema.mapping .sqlite filter).runOn [] = (.ok conditions, params) ∧
        Condition.HaveRoom conditions params 3 6 := by
    cases k with
    | contractNegotiation => exact haveRoom_of_unleasedCandidates (α := ContractNegotiation) h he
    | transferProcess => exact haveRoom_of_unleasedCandidates (α := TransferProcess) h he
  exact TableMapping.fitsLookUp_of_haveRoom hrun (hroom.mono (Nat.le_refl 3) (by decide))

end EntityStore

end LeasedStore
