/-
What queries answer where the rows of a table are those of entities.

* `QuerySpec.rowOrder`, `rowOrder_row`: rows are ordered as their entities are;
* `sortRows_row`: sorted rows are those of sorted entities;
* `Select.isEvaluated_row`: conditions of criteria come to results on the row of an entity;
* `rowsOf_row`: a query answers the rows of the entities that its specification asks for.
-/
import LeasedStore.Proofs.Database.Answer
import LeasedStore.Proofs.Query.Order
import LeasedStore.Proofs.Query.Translation

namespace LeasedStore

/-! ### Order -/

/-- Values are ordered as conditions order them. -/
lemma PropertyValue.order_datum (v w : PropertyValue) : v.datum.order w.datum = v.order w := by
  cases v with
  | int m =>
      cases w with
      | int n => rfl
      | text t => cases t <;> rfl
  | text s =>
      cases s with
      | none =>
          cases w with
          | int n => rfl
          | text t => cases t <;> rfl
      | some s =>
          cases w with
          | int n => rfl
          | text t =>
              cases t with
              | none => rfl
              | some t => exact (Text.compare_bytes s.toList t.toList).symm

/-- Rows are ordered by the first column, in its direction, and then by the others. -/
lemma rowLe_cons (column : String) (d : SortOrder) (rest : List (String × SortOrder))
    (a b : Row) :
    rowLe ((column, d) :: rest) a b =
      match d.directed ((Datum.ofCell (a.cell column)).order (.ofCell (b.cell column))) with
      | .lt => true
      | .gt => false
      | .eq => rowLe rest a b := by
  rw [rowLe]
  cases d <;> cases (Datum.ofCell (a.cell column)).order (.ofCell (b.cell column)) <;> rfl

/-- How a specification orders rows: by the column of its sort property, and by their ids where that
leaves them level. -/
def QuerySpec.rowOrder (m : TableMapping) (spec : QuerySpec) (a b : Row) : Ordering :=
  let byColumn (column : String) : Ordering :=
    (Datum.ofCell (a.cell column)).order (.ofCell (b.cell column))
  match spec.sortField.bind m.plainColumn? with
  | some c => (spec.sortOrder.directed (byColumn c.name)).then (byColumn m.idColumn)
  | none => byColumn m.idColumn

/-- Rows come in the order of their specification. -/
lemma rowLe_eq_rowOrder {m : TableMapping} {spec : QuerySpec} {order : List (String × SortOrder)}
    (h : m.order spec = .ok order) (a b : Row) :
    rowLe order a b = (spec.rowOrder m a b).isLE := by
  rw [TableMapping.order] at h
  rw [QuerySpec.rowOrder]
  -- without a sort property, and with the id as one, rows are ordered by the id alone
  cases hsort : spec.sortField with
  | none =>
      rw [hsort] at h
      cases h
      rw [rowLe_cons]
      dsimp only [Option.bind]
      cases (Datum.ofCell (a.cell m.idColumn)).order (.ofCell (b.cell m.idColumn)) <;> rfl
  | some property =>
      rw [hsort] at h
      dsimp only [Option.bind] at h ⊢
      cases hc : m.plainColumn? property with
      | none => rw [hc] at h; cases h
      | some c =>
          rw [hc] at h
          dsimp only at h ⊢
          by_cases hid : c.name = m.idColumn
          · rw [if_pos hid] at h
            cases h
            rw [rowLe_cons, hid]
            cases (Datum.ofCell (a.cell m.idColumn)).order (.ofCell (b.cell m.idColumn)) <;>
              cases spec.sortOrder <;> rfl
          · rw [if_neg hid] at h
            cases h
            rw [rowLe_cons, rowLe_cons]
            cases spec.sortOrder.directed
              ((Datum.ofCell (a.cell c.name)).order (.ofCell (b.cell c.name))) <;>
              cases (Datum.ofCell (a.cell m.idColumn)).order (.ofCell (b.cell m.idColumn)) <;> rfl

/-- Rows are ordered by their ids as entities are. -/
lemma order_idColumn {α : Type} [Entity α] [LawfulEntity α] (a b : α) :
    (Datum.ofCell ((Entity.row a).cell (Entity.schema α).mapping.idColumn)).order
      (.ofCell ((Entity.row b).cell (Entity.schema α).mapping.idColumn)) =
      Text.order (Entity.id a) (Entity.id b) := by
  rw [LawfulEntity.cell_idColumn, LawfulEntity.cell_idColumn]
  exact (Text.compare_bytes (Entity.id a).toList (Entity.id b).toList).symm

section Rows

variable {α : Type} [Entity α] [LawfulEntity α] [DocumentedEntity α] [QueriedEntity α]
  [LawfulQueried α] {spec : QuerySpec} {es : List α} {order : List (String × SortOrder)}

open QueriedEntity (value)

/-- Rows are ordered as their entities are. -/
lemma rowOrder_row (h : (Entity.schema α).mapping.order spec = .ok order) (a b : α) :
    spec.rowOrder (Entity.schema α).mapping (Entity.row a) (Entity.row b) = spec.order a b := by
  rw [TableMapping.order] at h
  rw [QuerySpec.rowOrder, QuerySpec.order]
  dsimp only
  rw [order_idColumn]
  cases hsort : spec.sortField with
  | none => rfl
  | some property =>
      rw [hsort] at h
      dsimp only [Option.bind] at h ⊢
      cases hc : (Entity.schema α).mapping.plainColumn? property with
      | none => rw [hc] at h; cases h
      | some c =>
          have hvalue : (Datum.ofCell ((Entity.row a).cell c.name)).order
              (.ofCell ((Entity.row b).cell c.name)) =
              (value a property).order (value b property) := by
            rw [(cell_of_plainColumn? a hc).1, (cell_of_plainColumn? b hc).1]
            exact PropertyValue.order_datum _ _
          dsimp only
          rw [hvalue]

lemma sortRows_row (h : (Entity.schema α).mapping.order spec = .ok order) (es : List α) :
    sortRows order (es.map Entity.row) =
      (es.mergeSort fun a b => (spec.order a b).isLE).map Entity.row :=
  (List.map_mergeSort fun a _ b _ => by rw [rowLe_eq_rowOrder h, rowOrder_row h]).symm

/-- Sorting rows before or after some are left out comes to the same. -/
lemma filter_sortRows_row (h : (Entity.schema α).mapping.order spec = .ok order)
    (hes : (es.map Entity.id).Nodup) (f : Row → Bool) :
    (sortRows order (es.map Entity.row)).filter f =
      sortRows order ((es.map Entity.row).filter f) := by
  rw [sortRows_row h, List.filter_map, QuerySpec.filter_mergeSort hes, List.filter_map,
    sortRows_row h]

end Rows

/-! ### Conditions -/

lemma PropertyValue.isPlain_datum (v : PropertyValue) : v.datum.IsPlain := by
  intro x h
  cases v with
  | int n => cases h
  | text s => cases s <;> cases h

/-- The column that the condition of a criterion is about holds no real number if it holds the value
of a property. -/
lemma Condition.Says.isPlain_column {params : List Param} {m : TableMapping} {c : Criterion}
    {cond : Condition} {r : Row} {v : PropertyValue} {column : String} (h : cond.Says params m c)
    (hv : ∀ {e : Expr} {target : Target}, e.Reads params target →
      m.target? c.property = some target → e.datum params r = .ok v.datum)
    (hcolumn : cond.column? = some column) : (Datum.ofCell (r.cell column)).IsPlain := by
  -- only expressions that are columns fix one, and these have the value of a property
  have hplain {e : Expr} {target : Target} (he : e.Reads params target)
      (ht : m.target? c.property = some target) (hc : e = .column column) :
      (Datum.ofCell (r.cell column)).IsPlain := by
    subst hc
    rw [Except.ok.inj (hv he ht)]
    exact PropertyValue.isPlain_datum v
  cases h with
  | compare target ht expr hexpr op ho hlike p hp =>
      refine hplain hexpr ht ?_
      cases hexpr <;> cases hcolumn
      rfl
  | oneOf target ht expr hexpr ho ps hp =>
      refine hplain hexpr ht ?_
      cases hexpr <;> cases hcolumn
      rfl
  | never target ht ho hempty => cases hcolumn

/-- Does a condition hold on a row? -/
def Condition.isHeld (params : List Param) (c : Condition) (r : Row) : Bool :=
  ((c.holds .empty params r).toOption).getD false

section Conditions

variable {α : Type} [Entity α] [DocumentedEntity α] [QueriedEntity α] [LawfulQueried α]
  {params : List Param} {conditions : List Condition} {e : α}

open QueriedEntity (value IsAddressed)

/-- A condition of a criterion holds if the criterion is met. -/
lemma Condition.Says.isHeld_row {c : Criterion} {cond : Condition}
    (h : cond.Says params (Entity.schema α).mapping c) (hs : Entity.IsStorable e)
    (ha : IsAddressed e c.property) :
    cond.isHeld params (Entity.row e) = c.isMet (value e c.property) := by
  rw [isHeld, h.holds_row hs ha]
  rfl

/-- The conditions of criteria hold if all criteria are met. -/
lemma all_isHeld_row {filter : List Criterion}
    (h : List.Forall₂ (fun c cond => Condition.Says params (Entity.schema α).mapping c cond)
      filter conditions)
    (hs : Entity.IsStorable e) (ha : ∀ c ∈ filter, IsAddressed e c.property) :
    conditions.all (fun cond => cond.isHeld params (Entity.row e)) =
      filter.all fun c => c.isMet (value e c.property) := by
  induction h with
  | nil => rfl
  | cons hc _ ih =>
      rw [List.all_cons, List.all_cons, hc.isHeld_row hs (ha _ (List.mem_cons_self ..)),
        ih fun c hm => ha c (List.mem_cons_of_mem _ hm)]

/-- A condition of a criterion comes to a result on the row of an entity, and what it is about is no
real number. -/
lemma Condition.Says.isEvaluated_row {c : Criterion} {cond : Condition}
    (h : cond.Says params (Entity.schema α).mapping c) (hs : Entity.IsStorable e)
    (ha : IsAddressed e c.property) :
    cond.holds .empty params (Entity.row e) = .ok (cond.isHeld params (Entity.row e)) ∧
      ∀ column, cond.column? = some column →
        (Datum.ofCell ((Entity.row e).cell column)).IsPlain := by
  refine ⟨by rw [isHeld, h.holds_row hs ha]; rfl, fun column hcolumn => ?_⟩
  exact h.isPlain_column (fun he ht => (he.datum_row hs ha ht).1) hcolumn

/-- Conditions of criteria come to results on the row of an entity. -/
lemma Select.isEvaluated_row {q : Select} {filter : List Criterion}
    (h : List.Forall₂ (fun c cond => Condition.Says params (Entity.schema α).mapping c cond)
      filter q.conditions)
    (hs : Entity.IsStorable e) (ha : ∀ c ∈ filter, IsAddressed e c.property) :
    q.IsEvaluated .empty params (Entity.row e) fun c => c.isHeld params (Entity.row e) := by
  refine ⟨fun cond hcond => ?_, fun cond hcond => ?_⟩
  · obtain ⟨c, hc, hcriterion⟩ := exists_of_forall₂ h hcond
    exact (hcriterion.isEvaluated_row hs (ha c hc)).1
  · obtain ⟨c, hc, hcriterion⟩ := exists_of_forall₂ h hcond
    exact (hcriterion.isEvaluated_row hs (ha c hc)).2

end Conditions

/-! ### Answers -/

/-- A number of rows is passed as it is. -/
lemma number_countParam {b : Select.Bound} {place : Placeholder} {n : UInt32}
    (h : place.param? b.params = some (TableMapping.countParam n)) (absent : Nat) :
    b.number (some place) absent = n.toNat := by
  have hcell : place.cell b.params = .int n.toUInt64.toInt64 := by
    rw [Placeholder.cell, h]
    rfl
  have hint : n.toUInt64.toInt64.toInt = n.toNat := by
    have hsmall : 2 * n.toUInt64.toBitVec.toNat < 2 ^ 64 := by
      rw [UInt64.toNat_toBitVec, UInt32.toNat_toUInt64]
      have hlt := n.toNat_lt
      omega
    calc n.toUInt64.toInt64.toInt = n.toUInt64.toBitVec.toNat :=
          BitVec.toInt_eq_toNat_of_lt hsmall
      _ = n.toNat := congrArg _ n.toNat_toUInt64
  rw [Select.Bound.number]
  simp only [hcell, hint, Int.toNat_natCast]

/-- Conditions of criteria are not about leases. -/
lemma any_isOnLeases_of_forall₂ {params : List Param} {m : TableMapping} {filter : List Criterion}
    {conditions : List Condition}
    (h : List.Forall₂ (fun c cond => Condition.Says params m c cond) filter conditions) :
    conditions.any Condition.isOnLeases = false := by
  induction h with
  | nil => rfl
  | cons hc _ ih =>
      rw [List.any_cons, ih]
      cases hc <;> rfl

section Answers

variable {α : Type} [Entity α] [LawfulEntity α] [DocumentedEntity α] [QueriedEntity α]
  [LawfulQueried α] {spec : QuerySpec} {query : Select.Bound} {es : List α} {t : Table}

open QueriedEntity (IsAddressed)

/-- A query answers the rows of the entities that its specification asks for. -/
theorem rowsOf_row (hq : (Entity.schema α).mapping.select .sqlite spec = .ok query)
    (hshort : query.HasShortPatterns)
    (ht : t.rows = es.map Entity.row) (hids : (es.map Entity.id).Nodup)
    (hs : ∀ e ∈ es, Entity.IsStorable e)
    (ha : ∀ e ∈ es, ∀ c ∈ spec.filter, IsAddressed e c.property) :
    query.rowsOf .empty t = .ok ((spec.answer es).map Entity.row) := by
  obtain ⟨conditions, order, limit, offset, hquery, hmeaning, horder, hlimit, hoffset⟩ :=
    TableMapping.select_eq_ok hq
  have hconditions : query.query.conditions = conditions := by rw [hquery]
  have hevaluated : ∀ r ∈ t.rows, query.query.IsEvaluated .empty query.params r
      fun c => c.isHeld query.params r := by
    intro r hr
    rw [ht] at hr
    obtain ⟨e, he, rfl⟩ := List.mem_map.mp hr
    exact Select.isEvaluated_row (hconditions ▸ hmeaning) (hs e he) (ha e he)
  -- the rows that satisfy the conditions are those of the entities that meet the criteria
  have hfilter : (t.rows.filter fun r => query.query.conditions.all fun c =>
      c.isHeld query.params r) = (es.filter fun e => spec.isMet e).map Entity.row := by
    rw [ht, List.filter_map, hconditions]
    refine congrArg _ (List.filter_congr fun e he => ?_)
    exact all_isHeld_row hmeaning (hs e he) (ha e he)
  have hl : query.query.limit = some limit := by rw [hquery]
  have ho : query.query.offset = some offset := by rw [hquery]
  have hsort : query.query.order = order := by rw [hquery]
  have hrows := Select.Bound.rowsOf_eq hshort hevaluated
    (fun n => by rw [hl, number_countParam hlimit n]) fun f _ => by
      rw [ht, hsort]
      exact filter_sortRows_row horder hids f
  rw [hrows, hfilter, hsort, sortRows_row horder, ho, number_countParam hoffset, QuerySpec.answer,
    QuerySpec.found, List.map_take, List.map_drop]

end Answers

end LeasedStore
