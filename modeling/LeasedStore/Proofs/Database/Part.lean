/-
Parts of an answer.

Offset and limit are the last parameters of a query, behind those of its conditions.  So queries
that differ in them alone have the same conditions under the same parameters, look at the same rows,
and answer parts of the same list: it is that list which `rowsOf_part` names.

* `Condition.IsBound`: do all places of a condition stand for parameters?
* `Condition.holds_of_prefix`: such a condition does not mind parameters behind its own;
* `Condition.Says.exists_holds`: a condition comes to a result where what it looks at is found;
* `Select.Bound.exists_isMatch`: so does whether a row matches;
* `Select.Bound.part`: a query with an offset and a limit;
* `Select.Bound.rowsOf_part`: the rows that the parts of a query answer;
* `TableMapping.select_part`: queries of specifications that differ in offset and limit alone.
-/
import LeasedStore.Proofs.Query.Answer

namespace LeasedStore

variable {params params' : List Param}

/-! ### More parameters -/

/-- Does a place stand for a parameter? -/
def Placeholder.IsBound (params : List Param) (p : Placeholder) : Prop :=
  (p.param? params).isSome = true

lemma Placeholder.cell_of_prefix {p : Placeholder} (h : p.IsBound params)
    (hp : params <+: params') : p.cell params' = p.cell params := by
  obtain ⟨v, hv⟩ := Option.isSome_iff_exists.mp h
  rw [cell, cell, hv, param?_of_prefix hv hp]

namespace Condition

variable {leases : LeaseTable} {r : Row} {c : Condition}

/-- Do all places of a condition stand for parameters? -/
def IsBound (params : List Param) (c : Condition) : Prop := ∀ p ∈ c.placeholders, p.IsBound params

/-- An expression has the same value if there are more parameters. -/
lemma datum_of_prefix {e : Expr} (h : ∀ p ∈ e.placeholders, p.IsBound params)
    (hp : params <+: params') : e.datum params' r = e.datum params r := by
  cases e with
  | column name => rfl
  | pathText name path =>
      rw [Expr.datum, Expr.datum, Placeholder.cell_of_prefix
        (h path (List.mem_singleton_self _)) hp]
  | keysText name keys => rfl

/-- A condition comes to the same if there are more parameters. -/
lemma holds_of_prefix (h : c.IsBound params) (hp : params <+: params') :
    c.holds leases params' r = c.holds leases params r := by
  cases c with
  | compare e op operand =>
      have he : e.datum params' r = e.datum params r :=
        datum_of_prefix (fun p hm => h p (List.mem_append_left _ hm)) hp
      have ho := Placeholder.cell_of_prefix
        (h operand (List.mem_append_right _ (List.mem_singleton_self _))) hp
      rw [holds, holds, he, Placeholder.datum, Placeholder.datum, ho]
  | oneOf e operands =>
      have he : e.datum params' r = e.datum params r :=
        datum_of_prefix (fun p hm => h p (List.mem_append_left _ hm)) hp
      have ho (p : Placeholder) (hm : p ∈ operands) : p.datum params' = p.datum params :=
        congrArg Datum.ofCell (Placeholder.cell_of_prefix (h p (List.mem_append_right _ hm)) hp)
      rw [holds, holds, he]
      congr 1
      funext a
      rw [Bool.eq_iff_iff, List.any_eq_true, List.any_eq_true]
      exact exists_congr fun p => and_congr_right fun hm => by rw [ho p hm]
  | never => rfl
  | unleased idExpr kind now =>
      have hkind := Placeholder.cell_of_prefix (h kind (List.mem_cons_self ..)) hp
      have hnow := Placeholder.cell_of_prefix
        (h now (List.mem_cons_of_mem _ (List.mem_singleton_self _))) hp
      rw [holds, holds, hkind, hnow]

/-- A pattern is as long if there are more parameters. -/
lemma isOverlong_append (h : c.IsBound params) (hp : params <+: params') :
    c.isOverlong params' = c.isOverlong params := by
  cases c with
  | compare e op operand =>
      cases op with
      | like =>
          obtain ⟨v, hv⟩ := Option.isSome_iff_exists.mp
            (h operand (List.mem_append_right _ (List.mem_singleton_self _)))
          rw [isOverlong, isOverlong, hv, Placeholder.param?_of_prefix hv hp]
      | _ => rfl
  | _ => rfl

/-- Conditions come to the same if there are more parameters. -/
lemma allHold_of_prefix {conditions : List Condition} (h : ∀ c ∈ conditions, c.IsBound params)
    (hp : params <+: params') :
    allHold leases params' r conditions = allHold leases params r conditions := by
  induction conditions with
  | nil => rfl
  | cons c rest ih =>
      obtain ⟨hc, hrest⟩ := List.forall_mem_cons.mp h
      rw [allHold, allHold, test, test, holds_of_prefix hc hp, isOverlong_append hc hp, ih hrest]

lemma mem_placeholders_of_fixedAt? {place : Placeholder} (h : c.fixedAt? = some place) :
    place ∈ c.placeholders := by
  obtain ⟨column, rfl | rfl⟩ := fixedAt?_eq_some h
  · exact List.mem_singleton_self _
  · exact List.mem_singleton_self _

/-- The condition of a criterion has all its parameters. -/
lemma Says.isBound {m : TableMapping} {criterion : Criterion} (h : c.Says params m criterion) :
    c.IsBound params := by
  have hreads {e : Expr} {target : Target} (he : e.Reads params target) :
      ∀ p ∈ e.placeholders, p.IsBound params := by
    intro p hm
    cases he with
    | column c => cases hm
    | member c keys path hpath =>
        cases List.mem_singleton.mp hm
        rw [Placeholder.IsBound, hpath]
        rfl
  have hstands {table property : String} {kind : ColumnKind} {o : Operand} {p : Placeholder}
      (hs : p.StandsFor params table property kind o) : p.IsBound params := by
    obtain ⟨v, -, hv⟩ := hs
    rw [Placeholder.IsBound, hv]
    rfl
  intro p hm
  cases h with
  | compare target ht e he op ho hlike operand hs =>
      rcases List.mem_append.mp hm with hm | hm
      · exact hreads he p hm
      · cases List.mem_singleton.mp hm
        exact hstands hs
  | oneOf target ht e he ho operands hs =>
      rcases List.mem_append.mp hm with hm | hm
      · exact hreads he p hm
      · obtain ⟨o, -, hs⟩ := exists_of_forall₂ hs hm
        exact hstands hs
  | never => cases hm

/-! ### Results -/

/-- The condition of a criterion comes to a result where its expression does. -/
lemma Says.exists_holds {m : TableMapping} {criterion : Criterion} (h : c.Says params m criterion)
    (hdatum : ∀ {e : Expr} {target : Target}, e.Reads params target →
      m.target? criterion.property = some target → ∃ d, e.datum params r = .ok d) :
    ∃ held, c.holds leases params r = .ok held := by
  cases h with
  | compare target ht e he op ho hlike p hp =>
      obtain ⟨d, hd⟩ := hdatum he ht
      exact ⟨_, by rw [holds, hd]; rfl⟩
  | oneOf target ht e he ho ps hp =>
      obtain ⟨d, hd⟩ := hdatum he ht
      exact ⟨_, by rw [holds, hd]; rfl⟩
  | never => exact ⟨false, rfl⟩

/-- Conditions that all come to results come to one together, if no pattern is too long. -/
lemma exists_allHold {conditions : List Condition}
    (h : ∀ c ∈ conditions, ∃ held, c.holds leases params r = .ok held)
    (hshort : ∀ c ∈ conditions, c.isOverlong params = false) :
    ∃ held, allHold leases params r conditions = .ok held := by
  induction conditions with
  | nil => exact ⟨true, rfl⟩
  | cons c rest ih =>
      obtain ⟨⟨held, hheld⟩, hrest⟩ := List.forall_mem_cons.mp h
      obtain ⟨hcshort, hshort⟩ := List.forall_mem_cons.mp hshort
      rw [allHold, test_of_short hcshort, hheld]
      cases held with
      | false => exact ⟨false, rfl⟩
      | true => exact ih hrest hshort

end Condition

/-! ### Offset and limit -/

namespace Select.Bound

variable {b : Bound} {leases : LeaseTable} {t : Table}

/-- A query with an offset and a limit, which become its last parameters. -/
def part (b : Bound) (offset limit : UInt32) : Bound where
  query :=
    { b.query with
      limit := some ⟨b.params.length + 1⟩
      offset := some ⟨b.params.length + 2⟩ }
  params := b.params ++ [TableMapping.countParam limit, TableMapping.countParam offset]

/-- Do all places of the conditions of a query stand for parameters? -/
def IsBound (b : Bound) : Prop := ∀ c ∈ b.query.conditions, c.IsBound b.params

lemma params_prefix_part (b : Bound) (offset limit : UInt32) :
    b.params <+: (b.part offset limit).params :=
  List.prefix_append ..

lemma number_limit_part (b : Bound) (offset limit : UInt32) (n : Nat) :
    (b.part offset limit).number (b.part offset limit).query.limit n = limit.toNat := by
  refine number_countParam ?_ n
  change Placeholder.param? _ (b.params ++ [_, _]) = _
  simp [Placeholder.param?]

lemma number_offset_part (b : Bound) (offset limit : UInt32) (n : Nat) :
    (b.part offset limit).number (b.part offset limit).query.offset n = offset.toNat := by
  refine number_countParam ?_ n
  change Placeholder.param? _ (b.params ++ [_, _]) = _
  simp [Placeholder.param?]

/-- A condition of a part fails if that of the query does. -/
lemma isFailed_part (h : b.IsBound) {c : Condition} (hc : c ∈ b.query.conditions)
    (offset limit : UInt32) :
    (b.part offset limit).query.isFailed (b.part offset limit).params c =
      b.query.isFailed b.params c := by
  have hp := b.params_prefix_part offset limit
  change b.query.isFailed (b.part offset limit).params c = _
  rw [isFailed, isFailed]
  cases hcolumn : c.column? with
  | none => rfl
  | some column =>
      cases hf : (b.query.deciding? c).bind Condition.fixedAt? with
      | none => rfl
      | some place =>
          obtain ⟨f, hdecides, hplace⟩ := Option.bind_eq_some_iff.mp hf
          have hmem := (List.mem_filter.mp (deciding?_eq_some hdecides).1).1
          have hcell := Placeholder.cell_of_prefix
            (h f hmem place (Condition.mem_placeholders_of_fixedAt? hplace)) hp
          dsimp only
          rw [hcell, Condition.holds_of_prefix (h c hc) hp]

/-- A part of a query can match the rows that the query can match. -/
lemma candidates_part (h : b.IsBound) (offset limit : UInt32) (t : Table) :
    (b.part offset limit).candidates t = b.candidates t := by
  have hrefuted : (b.part offset limit).query.isRefuted (b.part offset limit).params =
      b.query.isRefuted b.params := by
    rw [Bool.eq_iff_iff, isRefuted, isRefuted, List.any_eq_true, List.any_eq_true]
    refine exists_congr fun c => and_congr_right fun hc => ?_
    rw [isFailed_part h hc]
  rw [candidates, candidates, hrefuted]

lemma isMatch_part (h : b.IsBound) (offset limit : UInt32) (d : TableDef) (r : Row) :
    (b.part offset limit).isMatch leases d r = b.isMatch leases d r := by
  refine Condition.allHold_of_prefix (fun c hc => ?_) (b.params_prefix_part offset limit)
  exact h c (mem_conditions_of_scanned hc)

/-- Whether a row matches comes to a result where every condition does. -/
lemma exists_isMatch {m : TableMapping} {filter : List Criterion} {d : TableDef} {r : Row}
    (hshort : b.HasShortPatterns)
    (hmeaning : List.Forall₂ (fun c cond => Condition.Says b.params m c cond) filter
      b.query.conditions)
    (hholds : ∀ c ∈ filter, ∀ cond, Condition.Says b.params m c cond →
      ∃ held, cond.holds leases b.params r = .ok held) :
    ∃ held, b.isMatch leases d r = .ok held := by
  refine Condition.exists_allHold (fun cond hcond => ?_) fun cond hcond =>
    hshort cond (mem_conditions_of_scanned hcond)
  obtain ⟨c, hc, hsays⟩ := exists_of_forall₂ hmeaning (mem_conditions_of_scanned hcond)
  exact hholds c hc cond hsays

lemma found_part (h : b.IsBound) (offset limit : UInt32) :
    (b.part offset limit).found leases t = b.found leases t := by
  rw [found, found]
  simp only [candidates_part h, isMatch_part h]
  rfl

/-- Where looking at a row never fails, the parts of a query answer parts of what it finds. -/
theorem rowsOf_part (h : b.IsBound)
    (hmatch : ∀ r ∈ b.candidates t, ∃ held, b.isMatch leases t.definition r = .ok held)
    (offset limit : UInt32) :
    (b.part offset limit).rowsOf leases t =
      .ok (((b.found leases t).drop offset.toNat).take limit.toNat) := by
  rw [rowsOf_eq_found _ (b.number_limit_part offset limit), number_offset_part, found_part h]
  intro r hr
  rw [candidates_part h] at hr
  rw [isMatch_part h]
  exact hmatch r hr

end Select.Bound

namespace TableMapping

variable {m : TableMapping} {spec : QuerySpec} {b : Select.Bound}

/-- The query of a specification is a part of one that is the query of all specifications that
differ from it in offset and limit alone. -/
theorem select_part (h : m.select .sqlite spec = .ok b) :
    ∃ whole : Select.Bound, whole.query.projection = .columns m.columnNames ∧
      whole.query.table = m.table ∧
      (filterConditions m .sqlite spec.filter).runOn [] =
        (.ok whole.query.conditions, whole.params) ∧
      m.order spec = .ok whole.query.order ∧
      ∀ offset limit, m.select .sqlite { spec with offset := offset, limit := limit } =
        .ok (whole.part offset limit) := by
  have hrun := Select.Bound.of_eq_ok.mp h
  obtain ⟨conditions, params, hc, hrun⟩ := Binding.bind_eq_ok.mp hrun
  obtain ⟨order, params', hlift, -⟩ := Binding.bind_eq_ok.mp hrun
  obtain ⟨ho, rfl⟩ := Binding.lift_eq_ok.mp hlift
  refine ⟨⟨⟨.columns m.columnNames, m.table, conditions, order, none, none⟩, params⟩, rfl, rfl,
    hc, ho, fun offset limit => ?_⟩
  -- the conditions are translated before limit and offset are registered, so they do not depend on
  -- them
  have hselect : (m.selectBinding .sqlite { spec with offset := offset, limit := limit }).runOn [] =
      (.ok ⟨.columns m.columnNames, m.table, conditions, order, some ⟨params.length + 1⟩,
        some ⟨params.length + 2⟩⟩, params ++ [countParam limit, countParam offset]) := by
    refine Binding.bind_eq_ok.mpr ⟨conditions, params, hc, Binding.bind_eq_ok.mpr
      ⟨order, params, Binding.lift_eq_ok.mpr ⟨ho, rfl⟩, Binding.bind_eq_ok.mpr
        ⟨_, _, Binding.register_eq_ok.mpr ⟨rfl, rfl⟩, Binding.bind_eq_ok.mpr
          ⟨_, _, Binding.register_eq_ok.mpr ⟨rfl, rfl⟩, ?_⟩⟩⟩⟩
    exact Binding.pure_eq_ok.mpr ⟨by simp, by simp⟩
  exact Select.Bound.of_eq_ok.mpr hselect

end TableMapping

end LeasedStore
