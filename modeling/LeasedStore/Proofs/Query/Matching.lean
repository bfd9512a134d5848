/-
The rows that match a specification, in its order.

It is said of the contents of columns alone which rows match and how they are ordered: there are no
conditions, no parameters and no plan of a query in it.  What a query finds are these rows, whatever
it looks at first, if they have ids of their own.

* `Criterion.holdsOn`: a criterion holds on a row or not, which can be decided;
* `Table.matching`, `Database.matchingIds`: the rows of a table that match, and their ids;
* `filter_sortRows`: rows with ids of their own may be sorted before or after some are left out;
* `Select.Bound.found_eq_matching`: what a query finds are the rows that match.
-/
import LeasedStore.Proofs.Query.Satisfied

namespace LeasedStore

/-! ### Criteria that can be decided -/

/-- Does a comparison hold between what a row has and what an operand stands for there? -/
def Comparison.holdsOf (op : Comparison) (table property : String) (kind : ColumnKind) (d : Datum)
    (o : Operand) : Bool :=
  match coerce table property kind o with
  | .ok v => op.holds d (.ofCell v.cell)
  | .error _ => false

lemma Comparison.holdsOf_iff {op : Comparison} {table property : String} {kind : ColumnKind}
    {d : Datum} {o : Operand} :
    op.holdsOf table property kind d o = true ↔ op.HoldsOf table property kind d o := by
  rw [holdsOf, HoldsOf]
  cases coerce table property kind o <;> simp

/-- Does a criterion hold on a row? -/
def Criterion.holdsOn (m : TableMapping) (r : Row) (c : Criterion) : Bool :=
  match m.target? c.property with
  | none => false
  | some target =>
    match target.datum r with
    | .error _ => false
    | .ok d =>
      match c.operator with
      | .compare op => op.holdsOf m.table c.property target.kind d c.operand
      | .oneOf => c.operand.items.any (Comparison.equal.holdsOf m.table c.property target.kind d)

lemma Criterion.holdsOn_iff {m : TableMapping} {r : Row} {c : Criterion} :
    c.holdsOn m r = true ↔ c.HoldsOn m r := by
  rw [holdsOn, HoldsOn]
  cases m.target? c.property with
  | none => simp
  | some target =>
      cases hd : target.datum r with
      | error e => simp [hd]
      | ok d => cases ho : c.operator <;> simp [hd, Comparison.holdsOf_iff]

/-! ### Rows that match -/

/-- Do all criteria of a specification hold on a row? -/
def QuerySpec.holdsOn (m : TableMapping) (spec : QuerySpec) (r : Row) : Bool :=
  spec.filter.all (Criterion.holdsOn m r)

/-- The rows of a table that match a specification, in its order, whatever its offset and limit
are. -/
def Table.matching (m : TableMapping) (spec : QuerySpec) (t : Table) : List Row :=
  (t.rows.filter fun r => spec.holdsOn m r).mergeSort fun a b => (spec.rowOrder m a b).isLE

/-- The ids of the rows in the table of a kind that match a specification, in its order. -/
def Database.matchingIds (k : StoreKind) (spec : QuerySpec) (db : Database) : List Cell :=
  match db.table? k.schema.mapping.table with
  | some t => (t.matching k.schema.mapping spec).map fun r => r.cell k.schema.mapping.idColumn
  | none => []

section Matching

variable {m : TableMapping} {spec : QuerySpec} {t : Table} {r : Row}

lemma QuerySpec.holdsOn_iff : spec.holdsOn m r = true ↔ ∀ c ∈ spec.filter, c.HoldsOn m r := by
  simp [holdsOn, Criterion.holdsOn_iff]

lemma Table.mem_matching :
    r ∈ t.matching m spec ↔ r ∈ t.rows ∧ ∀ c ∈ spec.filter, c.HoldsOn m r := by
  rw [matching, List.mem_mergeSort, List.mem_filter, QuerySpec.holdsOn_iff]

lemma Table.nodup_matching (hids : (t.rows.map fun r => r.cell m.idColumn).Nodup) :
    ((t.matching m spec).map fun r => r.cell m.idColumn).Nodup := by
  have hperm : (t.matching m spec).Perm (t.rows.filter fun r => spec.holdsOn m r) :=
    List.mergeSort_perm ..
  exact (hperm.map _).nodup_iff.mpr (hids.sublist (List.filter_sublist.map _))

/-- As many rows of a table match a specification as meet its filter, whatever its order is. -/
lemma Database.length_matchingIds {k : StoreKind} {filter : List Criterion} {db : Database}
    (ht : db.table? k.schema.mapping.table = some t) (hfilter : spec.filter = filter) :
    (db.matchingIds k spec).length =
      (t.rows.filter fun r => filter.all (Criterion.holdsOn k.schema.mapping r)).length := by
  rw [matchingIds, ht]
  dsimp only
  rw [List.length_map, Table.matching, List.length_mergeSort]
  simp only [QuerySpec.holdsOn, hfilter]

/-- A row that all criteria hold on is what matches in a table of its own. -/
lemma Database.matchingIds_of_singleton {k : StoreKind} {db : Database}
    (ht : db.table? k.schema.mapping.table = some t) (hrows : t.rows = [r])
    (h : ∀ c ∈ spec.filter, c.holdsOn k.schema.mapping r = true) :
    db.matchingIds k spec = [r.cell k.schema.mapping.idColumn] := by
  have hholds : spec.holdsOn k.schema.mapping r = true := List.all_eq_true.mpr h
  rw [matchingIds, ht]
  dsimp only
  rw [Table.matching, hrows, List.filter_singleton, hholds, cond_true, List.mergeSort_singleton,
    List.map_singleton]

end Matching

/-! ### What a query finds -/

lemma mergeSort_congr {β : Type} {xs : List β} {le le' : β → β → Bool}
    (h : ∀ a ∈ xs, ∀ b ∈ xs, le a b = le' a b) : xs.mergeSort le = xs.mergeSort le' := by
  simpa using List.map_mergeSort (f := id) h

/-- The text in a column, if it holds one. -/
def Row.textOf (r : Row) (column : String) : String :=
  match r.cell column with
  | .text s => s
  | _ => ""

lemma Row.textOf_of_cell {r : Row} {column s : String} (h : r.cell column = .text s) :
    r.textOf column = s := by
  rw [textOf, h]

section Found

variable {m : TableMapping} {spec : QuerySpec} {order : List (String × SortOrder)}

/-- Rows that come in the order of a single column come in that of their ids. -/
lemma eq_of_map_fst {key : String} (h : m.order spec = .ok order)
    (hkey : order.map Prod.fst = [key]) : ∃ d, order = [(m.idColumn, d)] := by
  rw [TableMapping.order] at h
  split at h
  · cases h
    exact ⟨_, rfl⟩
  · split at h
    · cases h
    · split at h
      · next hid =>
        cases h
        exact ⟨_, by rw [hid]⟩
      · cases h
        cases hkey

/-- Rows whose ids are different texts may be sorted in the order of their ids before or after some
are left out. -/
lemma filter_sortRows {d : SortOrder} {column : String} {rows : List Row}
    (htext : ∀ r ∈ rows, ∃ s, r.cell column = .text s)
    (hids : (rows.map fun r => r.cell column).Nodup) (f : Row → Bool) :
    (sortRows [(column, d)] rows).filter f = sortRows [(column, d)] (rows.filter f) := by
  have hcmp := transCmp_on (fun r : Row => r.textOf column)
    (fun s t => d.directed (Text.order s t))
  have hle : ∀ a ∈ rows, ∀ b ∈ rows, rowLe [(column, d)] a b =
      (d.directed (Text.order (a.textOf column) (b.textOf column))).isLE := by
    intro a ha b hb
    obtain ⟨s, hs⟩ := htext a ha
    obtain ⟨t, ht⟩ := htext b hb
    have horder : (Datum.ofCell (.text s)).order (.ofCell (.text t)) = Text.order s t :=
      (Text.compare_bytes s.toList t.toList).symm
    rw [rowLe_cons, Row.textOf_of_cell hs, Row.textOf_of_cell ht, hs, ht, horder]
    cases d.directed (Text.order s t) <;> rfl
  -- on distinct texts the order is antisymmetric, so sorting and picking can be swapped
  have hlevel : ∀ a ∈ rows, ∀ b ∈ rows,
      d.directed (Text.order (a.textOf column) (b.textOf column)) = .eq → a = b := by
    intro a ha b hb h
    obtain ⟨s, hs⟩ := htext a ha
    obtain ⟨t, ht⟩ := htext b hb
    refine List.inj_on_of_nodup_map hids ha hb ?_
    have hlevel : Text.order (a.textOf column) (b.textOf column) = .eq := by
      cases d with
      | ascending => exact h
      | descending => exact Ordering.swap_eq_eq.mp h
    have heq := Text.eq_of_order hlevel
    rw [Row.textOf_of_cell hs, Row.textOf_of_cell ht] at heq
    rw [hs, ht, heq]
  have hfilter := @filter_mergeSort_of_level _ _ hcmp _ hlevel f
  rw [sortRows, sortRows, mergeSort_congr hle, hfilter]
  refine (mergeSort_congr fun a ha b hb => ?_).symm
  exact hle a (List.mem_filter.mp ha).1 b (List.mem_filter.mp hb).1

variable {b : Select.Bound} {leases : LeaseTable} {t : Table}

/-- What a query finds are the rows that match its specification, in its order, if their ids are
different texts and the columns of integers hold integers. -/
theorem Select.Bound.found_eq_matching (hshort : b.HasShortPatterns)
    (hconds : List.Forall₂ (fun c cond => Condition.Says b.params m c cond) spec.filter
      b.query.conditions)
    (horder : m.order spec = .ok b.query.order)
    (hint : ∀ r ∈ t.rows, ∀ c ∈ m.columns, c.kind = .integer → ∃ n, r.cell c.name = .int n)
    (htext : ∀ r ∈ t.rows, ∃ s, r.cell m.idColumn = .text s)
    (hids : (t.rows.map fun r => r.cell m.idColumn).Nodup) :
    b.found leases t = t.matching m spec := by
  have hmatch (r : Row) (hr : r ∈ t.rows) :
      (r ∈ b.candidates t ∧ b.isMatch leases t.definition r = .ok true) ↔
        ∀ c ∈ spec.filter, c.HoldsOn m r := isMatch_iff_holdsOn hshort hconds (hint r hr) hr
  have hfilter := filter_isMatch fun r hr =>
    (hmatch r hr).trans QuerySpec.holdsOn_iff.symm
  have hsorted : b.found leases t = sortRows b.query.order ((b.candidates t).filter fun r =>
      (b.isMatch leases t.definition r).toOption.getD false) := by
    rw [found]
    split
    -- rows in the order of their keys are sorted before they are picked
    · next hkey =>
      obtain ⟨d, hd⟩ := eq_of_map_fst horder (of_decide_eq_true hkey)
      rw [hd]
      refine filter_sortRows (fun r hr => htext r (mem_of_mem_candidates hr)) ?_ _
      rw [candidates]
      split
      · exact .nil
      · exact hids
    · rfl
  rw [hsorted, hfilter, sortRows, Table.matching]
  exact mergeSort_congr fun a _ b _ => rowLe_eq_rowOrder horder a b

end Found

end LeasedStore
