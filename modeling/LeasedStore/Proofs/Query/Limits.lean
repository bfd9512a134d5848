/-
Filters within the limits of a database, and beyond them.

All statements on a table have the conditions of a filter in common, and differ in what they put
behind them: one more condition, a limit, an offset.  So it is said of the conditions alone how much
room they leave, and each statement is within the limits if they leave it the room that it takes.

* `Criterion.demand`: how many places criteria take at most;
* `Condition.HaveRoom`: are conditions within the limits, with so many places and levels besides?
* `TableMapping.IsModest`, `IsModest.haveRoom`: a filter of a few criteria with short patterns
  leaves room;
* `Select.Bound.fits_part_iff`, `TableMapping.fits_part`: parts of a query are within the limits
  alike;
* `TableMapping.fits_of_isModest`: so a query with such a filter is within the limits;
* `TableMapping.fits_count_of_fits`: a count is within the limits if the query is.
-/
import LeasedStore.Proofs.Database.Part

namespace LeasedStore

/-! ### Places -/

namespace Criterion

/-- How many places criteria take at most: one for each operand, and one for the path of each. -/
def demand (filter : List Criterion) : Nat :=
  (filter.flatMap fun c => c.operand.items).length + filter.length

lemma demand_append (filter rest : List Criterion) :
    demand (filter ++ rest) = demand filter + demand rest := by
  simp only [demand, List.flatMap_append, List.length_append]
  omega

lemma demand_cons (c : Criterion) (rest : List Criterion) :
    demand (c :: rest) = c.operand.items.length + 1 + demand rest := by
  simp only [demand, List.flatMap_cons, List.length_append, List.length_cons]
  omega

lemma demand_replicate (n : Nat) (c : Criterion) :
    demand (List.replicate n c) = n * (c.operand.items.length + 1) := by
  induction n with
  | zero => rw [Nat.zero_mul]; rfl
  | succ n ih => rw [List.replicate_succ, demand_cons, ih, Nat.succ_mul, Nat.add_comm]

end Criterion

/-! ### Room -/

namespace Condition

variable {params params' : List Param} {conditions : List Condition} {places levels : Nat}
  {m : TableMapping} {c : Criterion} {cond : Condition} {filter : List Criterion}

/-- Are conditions within the limits of a database, with so many places and so many levels
besides? -/
structure HaveRoom (conditions : List Condition) (params : List Param) (places levels : Nat) :
    Prop where
  places : (conditions.flatMap placeholders).length + places ≤ maxPlaces
  levels : joined conditions + levels ≤ maxNesting
  patterns : ∀ c ∈ conditions, c.isOverlong params = false

lemma HaveRoom.mono {places' levels' : Nat} (h : HaveRoom conditions params places levels)
    (hplaces : places' ≤ places) (hlevels : levels' ≤ levels) :
    HaveRoom conditions params places' levels' :=
  ⟨(Nat.add_le_add_left hplaces _).trans h.places, (Nat.add_le_add_left hlevels _).trans h.levels,
    h.patterns⟩

/-- Conditions leave the same room if there are more parameters. -/
lemma haveRoom_of_prefix (h : ∀ c ∈ conditions, c.IsBound params) (hp : params <+: params') :
    HaveRoom conditions params' places levels ↔ HaveRoom conditions params places levels := by
  have hpatterns : (∀ c ∈ conditions, c.isOverlong params' = false) ↔
      ∀ c ∈ conditions, c.isOverlong params = false :=
    forall₂_congr fun c hc => by rw [isOverlong_append (h c hc) hp]
  exact ⟨fun hroom => ⟨hroom.places, hroom.levels, hpatterns.mp hroom.patterns⟩,
    fun hroom => ⟨hroom.places, hroom.levels, hpatterns.mpr hroom.patterns⟩⟩

/-- Conditions leave room for one more. -/
lemma HaveRoom.concat {c : Condition}
    (h : HaveRoom conditions params (places + c.placeholders.length) (levels + 1))
    (hc : c.nesting + levels ≤ maxNesting - 1) (hshort : c.isOverlong params = false) :
    HaveRoom (conditions ++ [c]) params places levels where
  places := by
    have hplaces := h.places
    rw [List.flatMap_append, List.length_append, List.flatMap_singleton]
    omega
  levels := by
    have hlevels := h.levels
    rw [joined_concat, joinedNesting]
    have hmax : maxNesting = 1000 := rfl
    split <;> omega
  patterns := List.forall_mem_append.mpr ⟨h.patterns, List.forall_mem_singleton.mpr hshort⟩

/-- Without their last one conditions leave room for it. -/
lemma haveRoom_of_concat {c : Condition} (h : HaveRoom (conditions ++ [c]) params places levels) :
    HaveRoom conditions params (places + c.placeholders.length) (levels + 1) where
  places := by
    have hplaces := h.places
    rw [List.flatMap_append, List.length_append, List.flatMap_singleton] at hplaces
    omega
  levels := by
    have hlevels := h.levels
    have hc := c.two_le_nesting
    rw [joined_concat, joinedNesting] at hlevels
    split at hlevels <;> omega
  patterns := (List.forall_mem_append.mp h.patterns).1

/-! ### What criteria take -/

lemma Says.innerNesting_eq (h : cond.Says params m c) : cond.innerNesting = 0 := by
  cases h <;> rfl

/-- The value of a member is three levels, and to compare it is one more. -/
lemma Says.nesting_le (h : cond.Says params m c) : cond.nesting ≤ 4 := by
  have hreads {e : Expr} {target : Target} (he : e.Reads params target) : e.nesting ≤ 3 := by
    cases he <;> simp [Expr.nesting]
  fun_cases nesting cond with
  | case1 e op p =>
      cases h with
      | compare target ht e he => exact Nat.succ_le_succ (hreads he)
  | case2 e p =>
      cases h with
      | oneOf target ht e he => exact Nat.succ_le_succ (Nat.max_le.mpr ⟨hreads he, by decide⟩)
  | case3 e ps =>
      cases h with
      | oneOf target ht e he => exact Nat.succ_le_succ (hreads he)
  | case4 => decide
  | case5 => cases h

/-- Every operand takes a place, and the path to a member one more. -/
lemma Says.length_placeholders_le (h : cond.Says params m c) :
    cond.placeholders.length ≤ c.operand.items.length + 1 := by
  have hreads {e : Expr} {target : Target} (he : e.Reads params target) :
      e.placeholders.length ≤ 1 := by
    cases he <;> simp [Expr.placeholders]
  cases h with
  | compare target ht e he op ho hlike p hp =>
      obtain ⟨v, hv, -⟩ := hp
      -- what is compared with a single operand has no list
      have hitems : c.operand.items.length = 1 := by
        cases hoperand : c.operand with
        | list os =>
            rw [hoperand] at hv
            cases hv
        | _ => rfl
      rw [placeholders, List.length_append, List.length_singleton, hitems]
      exact Nat.succ_le_succ (hreads he)
  | oneOf target ht e he ho ps hp =>
      rw [placeholders, List.length_append, hp.length_eq, Nat.add_comm]
      exact Nat.add_le_add_left (hreads he) _
  | never target ht ho hempty => exact Nat.zero_le _

lemma length_flatMap_placeholders_le
    (h : List.Forall₂ (fun c cond => Says params m c cond) filter conditions) :
    (conditions.flatMap placeholders).length ≤ Criterion.demand filter := by
  induction h with
  | nil => exact Nat.le_refl 0
  | cons hc _ ih =>
      rw [List.flatMap_cons, List.length_append, Criterion.demand_cons]
      exact Nat.add_le_add hc.length_placeholders_le ih

/-- Conditions of few levels that are joined are few levels and one for each of them. -/
lemma joined_le {n : Nat} (h : ∀ c ∈ conditions, c.nesting ≤ n + 1) :
    joined conditions ≤ conditions.length + n := by
  induction conditions using List.reverseRecOn with
  | nil => exact Nat.zero_le _
  | append_singleton conditions c ih =>
      obtain ⟨hrest, hc⟩ := List.forall_mem_append.mp h
      have hlast := hc c (List.mem_singleton_self c)
      have hbefore := ih hrest
      rw [joined_concat, joinedNesting, List.length_append, List.length_singleton]
      by_cases hnil : conditions = []
      · subst hnil
        have hjoined : joined [] = 0 := rfl
        rw [hjoined, if_pos rfl]
        omega
      · have hlength := List.length_pos_iff.mpr hnil
        split <;> omega

end Condition

/-! ### Filters that leave room -/

namespace TableMapping

variable {m : TableMapping} {filter : List Criterion} {places levels : Nat} {params : List Param}
  {conditions : List Condition}

/-- Does a filter ask for little: with so many places and so many levels besides, are its criteria
and its operands few enough, and its patterns short? -/
structure IsModest (m : TableMapping) (filter : List Criterion) (places levels : Nat) : Prop where
  criteria : filter.length + 3 + levels ≤ maxNesting
  operands : Criterion.demand filter + places ≤ maxPlaces
  patterns : ∀ c ∈ filter, c.operator = .compare .like →
    ∀ v, coerce m.table c.property .text c.operand = .ok v → v.size ≤ maxPatternSize

lemma isModest_of_no_pattern (hcriteria : filter.length + 3 + levels ≤ maxNesting)
    (hoperands : Criterion.demand filter + places ≤ maxPlaces)
    (h : ∀ c ∈ filter, c.operator ≠ .compare .like) : m.IsModest filter places levels :=
  ⟨hcriteria, hoperands, fun c hc hlike => absurd hlike (h c hc)⟩

lemma isModest_equals (property text : String) (hlevels : 4 + levels ≤ maxNesting)
    (hplaces : 2 + places ≤ maxPlaces) :
    m.IsModest [.equals property (.text text)] places levels :=
  isModest_of_no_pattern hlevels hplaces fun c hc hlike => by
    cases List.mem_singleton.mp hc
    cases hlike

/-- The conditions of a filter that asks for little leave room. -/
theorem IsModest.haveRoom (h : m.IsModest filter places levels)
    (hmeaning : List.Forall₂ (fun c cond => Condition.Says params m c cond) filter conditions) :
    Condition.HaveRoom conditions params places levels where
  places := (Nat.add_le_add_right (Condition.length_flatMap_placeholders_le hmeaning) _).trans
    h.operands
  levels := by
    have hjoined : Condition.joined conditions ≤ conditions.length + 3 :=
      Condition.joined_le fun cond hcond => by
        obtain ⟨c, -, hc⟩ := exists_of_forall₂ hmeaning hcond
        exact hc.nesting_le
    have hcriteria := h.criteria
    have hlength := hmeaning.length_eq
    omega
  patterns cond hcond := by
    obtain ⟨c, hmem, hc⟩ := exists_of_forall₂ hmeaning hcond
    -- a pattern can stand in no other condition than a likeness
    cases hc with
    | compare target ht e he op ho hlike p hp =>
        cases op with
        | like =>
            obtain ⟨v, hv, hparam⟩ := hp
            rw [hlike rfl] at hv
            have hsize := h.patterns c hmem ho v hv
            rw [Condition.isOverlong, hparam]
            simpa using hsize
        | _ => rfl
    | _ => rfl

end TableMapping

/-! ### Queries -/

/-- The queries inside conditions are no deeper than the one in the last of them, if the others have
none. -/
lemma Select.innerNesting_of_concat {q : Select} {conditions : List Condition} {c : Condition}
    (hq : q.conditions = conditions ++ [c]) (h : ∀ c ∈ conditions, c.innerNesting = 0) :
    q.innerNesting = c.innerNesting := by
  have hmap : conditions.map Condition.innerNesting = List.replicate conditions.length 0 :=
    List.eq_replicate_iff.mpr ⟨List.length_map .., List.forall_mem_map.mpr h⟩
  have hzero (n : Nat) : (List.replicate n 0).foldl max 0 = 0 := by
    induction n with
    | zero => rfl
    | succ n ih => exact ih
  rw [innerNesting, hq, List.map_append, List.foldl_append, hmap, hzero]
  exact Nat.zero_max _

/-- Conditions of criteria have no queries inside. -/
lemma Select.innerNesting_eq_zero {q : Select} {m : TableMapping} {filter : List Criterion}
    {params : List Param}
    (h : List.Forall₂ (fun c cond => Condition.Says params m c cond) filter q.conditions) :
    q.innerNesting = 0 := by
  have hinner : ∀ c ∈ q.conditions, c.innerNesting = 0 := fun cond hcond => by
    obtain ⟨c, -, hc⟩ := exists_of_forall₂ h hcond
    exact hc.innerNesting_eq
  cases hq : q.conditions using List.reverseRecOn with
  | nil => rw [innerNesting, hq]; rfl
  | append_singleton conditions c _ =>
      rw [hq] at hinner
      obtain ⟨hrest, hc⟩ := List.forall_mem_append.mp hinner
      rw [innerNesting_of_concat hq hrest, hc c (List.mem_singleton_self c)]

namespace Select.Bound

variable {b : Bound} {m : TableMapping} {filter : List Criterion}

/-- A statement is within the limits if its conditions leave room for its limit, its offset and the
queries inside. -/
lemma fits_iff_haveRoom : b.Fits ↔ Condition.HaveRoom b.query.conditions b.params
    (b.query.limit.toList ++ b.query.offset.toList).length b.query.innerNesting := by
  have hplaces : b.query.placeholders.length =
      (b.query.conditions.flatMap Condition.placeholders).length +
        (b.query.limit.toList ++ b.query.offset.toList).length := List.length_append
  exact ⟨fun hfits => ⟨hplaces ▸ hfits.places, hfits.nesting, hfits.patterns⟩,
    fun hroom => ⟨⟨hplaces ▸ hroom.places, hroom.levels⟩, hroom.patterns⟩⟩

/-- A part of a query is within the limits if its conditions leave room for limit and offset. -/
lemma fits_part_iff
    (h : List.Forall₂ (fun c cond => Condition.Says b.params m c cond) filter b.query.conditions)
    (offset limit : UInt32) :
    (b.part offset limit).Fits ↔ Condition.HaveRoom b.query.conditions b.params 2 0 := by
  have hp := b.params_prefix_part offset limit
  have hbound : ∀ c ∈ b.query.conditions, c.IsBound b.params := fun cond hcond => by
    obtain ⟨c, -, hc⟩ := exists_of_forall₂ h hcond
    exact hc.isBound
  have hinner : (b.part offset limit).query.innerNesting = 0 := innerNesting_eq_zero h
  rw [fits_iff_haveRoom, hinner]
  exact Condition.haveRoom_of_prefix hbound hp

end Select.Bound

namespace TableMapping

variable {m : TableMapping} {spec : QuerySpec} {query query' : Select.Bound}
  {filter : List Criterion} {params : List Param} {conditions : List Condition}

/-- A query is within the limits if the conditions of its filter leave room for limit and offset. -/
lemma fits_select_iff
    (h : (filterConditions m .sqlite spec.filter).runOn [] = (.ok conditions, params))
    (hq : m.select .sqlite spec = .ok query) :
    query.Fits ↔ Condition.HaveRoom conditions params 2 0 := by
  obtain ⟨whole, -, -, hrun, -, hpart⟩ := select_part hq
  cases hrun.symm.trans h
  cases hq.symm.trans (hpart spec.offset spec.limit)
  exact Select.Bound.fits_part_iff (forall₂_of_filterConditions h).2 spec.offset spec.limit

/-- Queries that differ in offset and limit alone are within the limits alike. -/
lemma fits_part (hq : m.select .sqlite spec = .ok query) (hfits : query.Fits)
    {offset limit : UInt32}
    (hq' : m.select .sqlite { spec with offset := offset, limit := limit } = .ok query') :
    query'.Fits := by
  obtain ⟨whole, -, -, hrun, -, -⟩ := select_part hq
  have hrun' : (filterConditions m .sqlite
      ({ spec with offset := offset, limit := limit } : QuerySpec).filter).runOn [] =
        (.ok whole.query.conditions, whole.params) := hrun
  exact (fits_select_iff hrun' hq').mpr ((fits_select_iff hrun hq).mp hfits)

theorem fits_of_isModest (h : m.IsModest spec.filter 2 0) (hq : m.select .sqlite spec = .ok query) :
    query.Fits := by
  obtain ⟨whole, -, -, hrun, -, -⟩ := select_part hq
  exact (fits_select_iff hrun hq).mpr (h.haveRoom (forall₂_of_filterConditions hrun).2)

/-- A count is within the limits if the conditions of its filter are. -/
lemma fits_count_iff (h : (filterConditions m .sqlite filter).runOn [] = (.ok conditions, params))
    (hq : m.count .sqlite filter = .ok query) :
    query.Fits ↔ Condition.HaveRoom conditions params 0 0 := by
  obtain ⟨conditions', hquery, hrun⟩ := count_eq_ok hq
  cases hrun.symm.trans h
  have hmeaning := (forall₂_of_filterConditions h).2
  have hconditions : query.query.conditions = conditions := by rw [hquery]
  have hinner : query.query.innerNesting = 0 := Select.innerNesting_eq_zero (hconditions ▸ hmeaning)
  rw [Select.Bound.fits_iff_haveRoom, hinner, hquery]
  rfl

lemma fits_count_of_fits (hq : m.select .sqlite spec = .ok query) (hfits : query.Fits)
    (hq' : m.count .sqlite spec.filter = .ok query') : query'.Fits := by
  obtain ⟨whole, -, -, hrun, -, -⟩ := select_part hq
  exact (fits_count_iff hrun hq').mpr
    (((fits_select_iff hrun hq).mp hfits).mono (Nat.zero_le 2) (Nat.le_refl 0))

end TableMapping

end LeasedStore
