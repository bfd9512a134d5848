/-
Rows some of whose columns are assigned.

* `Row.names`, `Row.assign`: the columns of a row, and the row after some of them were assigned;
* `Row.cell_assign`: a column has what was assigned to it last;
* `Row.assign_eq`: a row of which all columns but one are assigned.
-/
import LeasedStore.Proofs.Database.Search

namespace LeasedStore

namespace Row

variable {r r' : Row} {column name : String}

/-- The names of the columns. -/
def names (r : Row) : List String := r.cells.map Prod.fst

/-- The row after some columns were assigned, one after the other. -/
def assign (r : Row) (cells : List (String × Cell)) : Row :=
  cells.foldl (fun r a => r.set a.1 a.2) r

@[simp]
lemma names_set (r : Row) (column : String) (c : Cell) : (r.set column c).names = r.names := by
  rw [names, set, List.map_map, names]
  refine List.map_congr_left fun x _ => ?_
  simp only [Function.comp_apply]
  split <;> rfl

@[simp]
lemma names_assign (r : Row) (cells : List (String × Cell)) : (r.assign cells).names = r.names := by
  induction cells generalizing r with
  | nil => rfl
  | cons a rest ih => exact (ih (r.set a.1 a.2)).trans (names_set r a.1 a.2)

/-- A column that is there has what it was set to, and the others have what they had. -/
lemma cell_set (h : name ∈ r.names) (column : String) (c : Cell) :
    (r.set column c).cell name = if name = column then c else r.cell name := by
  obtain ⟨cells⟩ := r
  simp only [names, cell, set] at h ⊢
  induction cells with
  | nil => cases h
  | cons x rest ih =>
      rw [List.map_cons, List.lookup_cons, List.lookup_cons]
      by_cases hx : name = x.1
      · subst hx
        by_cases hcolumn : x.1 = column <;> simp [hcolumn]
      · have hrest : name ∈ rest.map Prod.fst := (List.mem_cons.mp h).resolve_left hx
        have hset : (name == (if x.1 = column then (x.1, c) else x).1) = false := by
          split <;> simpa using hx
        rw [hset, beq_false_of_ne hx]
        exact ih hrest

/-- A column that is there has what was assigned to it, if anything was. -/
lemma cell_assign {cells : List (String × Cell)} (h : name ∈ r.names)
    (hn : (cells.map Prod.fst).Nodup) :
    (r.assign cells).cell name = (cells.lookup name).getD (r.cell name) := by
  induction cells generalizing r with
  | nil => rfl
  | cons a rest ih =>
      obtain ⟨hfirst, hrest⟩ := List.nodup_cons.mp hn
      have hset : name ∈ (r.set a.1 a.2).names := by rwa [names_set]
      change ((r.set a.1 a.2).assign rest).cell name = _
      rw [ih hset hrest, cell_set h, List.lookup_cons]
      by_cases ha : name = a.1
      · have hnone : rest.lookup name = none := by
          rw [List.lookup_eq_none_iff]
          intro x hx
          refine bne_iff_ne.mpr fun heq => hfirst ?_
          exact List.mem_map.mpr ⟨x, hx, heq.symm.trans ha⟩
        rw [hnone, if_pos ha, ha, beq_self_eq_true]
        rfl
      · rw [if_neg ha, beq_false_of_ne ha]

/-- A column has the cell that stands under its name. -/
lemma lookup_of_mem {cells : List (String × Cell)} {x : String × Cell}
    (hn : (cells.map Prod.fst).Nodup) (hx : x ∈ cells) : cells.lookup x.1 = some x.2 := by
  obtain ⟨before, behind, rfl⟩ := List.append_of_mem hx
  refine List.lookup_eq_some_iff.mpr ⟨before, behind, rfl, fun y hy => ?_⟩
  rw [List.map_append, List.map_cons] at hn
  have hdisjoint := (List.nodup_append.mp hn).2.2
  exact bne_iff_ne.mpr (Ne.symm (hdisjoint y.1 (List.mem_map_of_mem hy) x.1 List.mem_cons_self))

/-- A row is made of its cells if no two columns have one name. -/
lemma project_names (h : r.names.Nodup) : r.project r.names = r := by
  obtain ⟨cells⟩ := r
  rw [project, names, List.map_map]
  congr 1
  refine (List.map_congr_left fun x hx => ?_).trans (List.map_id cells)
  rw [Function.comp_apply, cell, lookup_of_mem h hx]
  rfl

/-- A row all of whose columns but one are assigned from another row is that row, if both hold the
same in the one that is left. -/
lemma assign_eq (hnames : r.names = r'.names) (hn : r'.names.Nodup)
    (hcell : r.cell column = r'.cell column) :
    r.assign (r'.cells.filter fun a => a.1 ≠ column) = r' := by
  have hassigned : (r.assign (r'.cells.filter fun a => a.1 ≠ column)).names = r'.names := by
    rw [names_assign, hnames]
  have hdistinct : ((r'.cells.filter fun a => a.1 ≠ column).map Prod.fst).Nodup :=
    hn.sublist (List.filter_sublist.map _)
  -- both rows have the same columns in the same order, so it is enough to compare column by column
  have hcells : ∀ name ∈ r'.names,
      (r.assign (r'.cells.filter fun a => a.1 ≠ column)).cell name = r'.cell name := by
    intro name hname
    rw [cell_assign (by rwa [hnames]) hdistinct]
    by_cases heq : name = column
    · have hnone : (r'.cells.filter fun a => a.1 ≠ column).lookup name = none := by
        refine List.lookup_eq_none_iff.mpr fun x hx => bne_iff_ne.mpr fun hx' => ?_
        exact (of_decide_eq_true (List.mem_filter.mp hx).2) (hx'.symm.trans heq)
      rw [hnone, heq]
      exact hcell
    · obtain ⟨x, hx, rfl⟩ := List.mem_map.mp hname
      have hmem : x ∈ r'.cells.filter fun a => a.1 ≠ column :=
        List.mem_filter.mpr ⟨hx, decide_eq_true heq⟩
      rw [lookup_of_mem hdistinct hmem, cell, cell, lookup_of_mem hn hx]
      rfl
  calc r.assign (r'.cells.filter fun a => a.1 ≠ column)
      _ = (r.assign (r'.cells.filter fun a => a.1 ≠ column)).project r'.names := by
        rw [← hassigned, project_names (by rwa [hassigned])]
      _ = r'.project r'.names := congrArg Row.mk (List.map_congr_left fun name hname => by
        rw [hcells name hname])
      _ = r' := project_names hn

end Row

end LeasedStore
