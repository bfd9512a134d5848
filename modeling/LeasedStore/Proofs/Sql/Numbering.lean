/-
Places line up with parameters.

The number of a place is allotted when its parameter is registered, and the text is put together
later.  A criterion registers the path or the keys of a member first and its operands behind them;
its condition shows their numbers in that order, one after the other.  If there is nothing that a
property could be, the condition shows no place at all, and the path or the keys stay without one.

* `Operand.param?`, `Target.params`: the parameters that an operand and the path to a member become;
* `Criterion.Adds`: what a criterion adds to the parameters that there are (the step);
* `Criterion.Fills`: do the places in a text stand for what a criterion compares?
* `IsLinedUp`, `isLinedUp_of_filterConditions`: the conditions of a filter (the run);
* `TableMapping.isLinedUp`: the same, and the statements that are made of them.
-/
import LeasedStore.Entity.Asset
import LeasedStore.Entity.ContractNegotiation
import LeasedStore.Proofs.Lease.Expiry
import LeasedStore.Proofs.Query.Meaning
import LeasedStore.Proofs.Sql.Acceptance
import LeasedStore.Proofs.Sql.Places
import LeasedStore.Store.Claim

namespace LeasedStore

/-! ### Parameters -/

/-- The parameter that an operand becomes for what is of some kind: an integer for integers, and a
text for everything else. -/
def Operand.param? (kind : ColumnKind) (o : Operand) : Option Param :=
  if kind = .integer then o.int?.map Param.int else o.text?.map Param.text

/-- The parameters that lead to what a criterion looks at: none to a column, and to a member its
path in the one dialect and its keys in the other. -/
def Target.params (d : Dialect) : Target → List Param
  | .column _ => []
  | .member _ keys =>
    match d with
    | .postgres => keys.map Param.text
    | .sqlite => [.text (JsonPath.text keys)]

/-- The operands that a criterion compares a property with. -/
def Criterion.operands (c : Criterion) : List Operand :=
  match c.operator with
  | .oneOf => c.operand.items
  | .compare _ => [c.operand]

lemma Operand.items_eq_nil_iff {o : Operand} : o.items = [] ↔ o = .list [] := by
  cases o <;> simp [items]

/-- What operands are coerced to. -/
lemma coerce_eq_ok_iff {table property : String} {kind : ColumnKind} {o : Operand} {v : Param} :
    coerce table property kind o = .ok v ↔ o.param? kind = some v := by
  cases o with
  | list items => simp [coerce, Operand.param?, Operand.int?, Operand.text?]
  | int n => cases kind <;> simp [coerce, Operand.param?, Operand.int?, Operand.text?]
  | text s =>
      cases kind with
      | integer => cases h : Numeral.int64? s <;> simp [coerce, Operand.param?, Operand.int?, h]
      | _ => simp [coerce, Operand.param?, Operand.text?]

/-- The parameter of a number. -/
def paramAt? (params : List Param) (n : Nat) : Option Param :=
  (⟨n⟩ : Placeholder).param? params

lemma cons_range'_length (params : List Param) (v : Param) (n : Nat) :
    (params.length + 1) :: List.range' ((params ++ [v]).length + 1) n =
      List.range' (params.length + 1) (n + 1) := by
  rw [List.length_append]
  exact List.range'_succ.symm

/-- Parameters that stand behind others have the numbers that follow. -/
lemma map_paramAt?_range' (before added more : List Param) :
    (List.range' (before.length + 1) added.length).map (paramAt? (before ++ added ++ more)) =
      added.map some := by
  refine List.ext_getElem (by simp) fun i hi _ => ?_
  have hlt : i < added.length := by simpa using hi
  have hat : (before ++ added ++ more)[before.length + i]? = some added[i] := by
    rw [List.append_assoc, List.getElem?_append_right (Nat.le_add_right ..),
      Nat.add_sub_cancel_left,
      List.getElem?_append_left hlt, List.getElem?_eq_getElem hlt]
  rw [List.getElem_map, List.getElem_map, List.getElem_range', paramAt?, Placeholder.param?,
    if_neg (by simp), ← hat]
  congr 1
  dsimp only
  omega

/-- The number of such a parameter leads to one. -/
lemma exists_paramAt? {before added : List Param} {n : Nat} (more : List Param)
    (hn : n ∈ List.range' (before.length + 1) added.length) :
    ∃ v ∈ added, paramAt? (before ++ added ++ more) n = some v := by
  have hmem := List.mem_map_of_mem (f := paramAt? (before ++ added ++ more)) hn
  rw [map_paramAt?_range'] at hmem
  obtain ⟨v, hv, hat⟩ := List.mem_map.mp hmem
  exact ⟨v, hv, hat.symm⟩

/-! ### Names -/

/-- Are the names of a table and its columns free of dollar signs? -/
structure TableMapping.HasPlainNames (m : TableMapping) : Prop where
  table : '$' ∉ m.table.toList
  idColumn : '$' ∉ m.idColumn.toList
  columns : ∀ c ∈ m.columns, '$' ∉ c.name.toList

/-- The column that a criterion looks at, or looks into. -/
def Target.columnOf : Target → Column
  | column c => c
  | member c _ => c

namespace TableMapping

variable {m : TableMapping} {property : String} {t : Target}

lemma Declares.mem {c : Column} (h : m.Declares property c) : c ∈ m.columns := by
  obtain ⟨-, before, after, hcolumns, -⟩ := h
  rw [hcolumns]
  exact List.mem_append_right _ (List.mem_cons_self ..)

/-- What criteria look at is in the columns. -/
lemma columnOf_mem (h : m.target? property = some t) : t.columnOf ∈ m.columns := by
  rw [target?] at h
  split at h
  · next c hc =>
    cases h
    exact (plainColumn?_eq_some_iff.mp hc).1.mem
  · obtain ⟨document, column, keys, -, hdeclares, -, rfl⟩ := member?_eq_some_iff.mp h
    exact hdeclares.mem

end TableMapping

/-! ### What a criterion adds -/

namespace Binding

/-- Parameters that are registered one behind the other. -/
lemma registerAll_eq_ok {vs params params' : List Param} {ps : List Placeholder}
    (h : (registerAll vs).runOn params = (.ok ps, params')) :
    params' = params ++ vs ∧
      ps.map Placeholder.number = List.range' (params.length + 1) vs.length := by
  induction vs generalizing params ps with
  | nil =>
      obtain ⟨rfl, rfl⟩ := pure_eq_ok.mp h
      exact ⟨(List.append_nil _).symm, rfl⟩
  | cons v rest ih =>
      obtain ⟨p, between, hp, h⟩ := bind_eq_ok.mp h
      obtain ⟨rfl, rfl⟩ := register_eq_ok.mp hp
      obtain ⟨more, _, hmore, h⟩ := bind_eq_ok.mp h
      obtain ⟨rfl, rfl⟩ := pure_eq_ok.mp h
      obtain ⟨rfl, hnumbers⟩ := ih hmore
      refine ⟨List.append_assoc .., ?_⟩
      rw [List.map_cons, hnumbers]
      exact cons_range'_length params v _

end Binding

namespace Criterion

variable {m : TableMapping} {d : Dialect} {c : Criterion} {params params' : List Param}

/-- The expression for what a criterion looks at. -/
lemma targetExpr_eq_ok {t : Target} {e : Expr}
    (h : (targetExpr d t).runOn params = (.ok e, params')) :
    params' = params ++ t.params d ∧
      e.placeholders.map Placeholder.number =
        List.range' (params.length + 1) (t.params d).length ∧
      ('$' ∉ t.columnOf.name.toList → e.IsPlain) := by
  cases t with
  | column c =>
      obtain ⟨rfl, rfl⟩ := Binding.pure_eq_ok.mp h
      exact ⟨(List.append_nil _).symm, rfl, id⟩
  | member c keys =>
      cases d with
      | postgres =>
          obtain ⟨ps, between, hps, h⟩ := Binding.bind_eq_ok.mp h
          obtain ⟨rfl, rfl⟩ := Binding.pure_eq_ok.mp h
          obtain ⟨rfl, hnumbers⟩ := Binding.registerAll_eq_ok hps
          exact ⟨rfl, hnumbers, id⟩
      | sqlite =>
          obtain ⟨path, between, hpath, h⟩ := Binding.bind_eq_ok.mp h
          obtain ⟨rfl, rfl⟩ := Binding.pure_eq_ok.mp h
          obtain ⟨rfl, rfl⟩ := Binding.register_eq_ok.mp hpath
          exact ⟨rfl, rfl, id⟩

/-- Operands that are coerced and registered one behind the other. -/
lemma registerOperands_eq_ok {table property : String} {kind : ColumnKind} {os : List Operand}
    {ps : List Placeholder}
    (h : (registerOperands table property kind os).runOn params = (.ok ps, params')) :
    ∃ vs, params' = params ++ vs ∧ List.Forall₂ (fun o v => o.param? kind = some v) os vs ∧
      ps.map Placeholder.number = List.range' (params.length + 1) vs.length := by
  induction os generalizing params ps with
  | nil =>
      obtain ⟨rfl, rfl⟩ := Binding.pure_eq_ok.mp h
      exact ⟨[], (List.append_nil _).symm, .nil, rfl⟩
  | cons o rest ih =>
      obtain ⟨v, _, hlift, h⟩ := Binding.bind_eq_ok.mp h
      obtain ⟨hv, rfl⟩ := Binding.lift_eq_ok.mp hlift
      obtain ⟨p, _, hp, h⟩ := Binding.bind_eq_ok.mp h
      obtain ⟨rfl, rfl⟩ := Binding.register_eq_ok.mp hp
      obtain ⟨more, _, hmore, h⟩ := Binding.bind_eq_ok.mp h
      obtain ⟨rfl, rfl⟩ := Binding.pure_eq_ok.mp h
      obtain ⟨vs, rfl, hvs, hnumbers⟩ := ih hmore
      refine ⟨v :: vs, List.append_assoc .., .cons (coerce_eq_ok_iff.mp hv) hvs, ?_⟩
      rw [List.map_cons, hnumbers]
      exact cons_range'_length params v _

/-- What a criterion adds to some parameters: its condition, and its own parameters, whose numbers
the condition shows one after the other; or, if there is nothing that the property could be, a
condition without places, and what leads to the property. -/
inductive Adds (d : Dialect) (m : TableMapping) (c : Criterion) (params : List Param) :
    Condition → List Param → Prop where
  | compared (t : Target) (ht : m.target? c.property = some t) (vs : List Param)
      (hne : c.operands ≠ [])
      (hvs : List.Forall₂ (fun o v => o.param? t.kind = some v) c.operands vs)
      (cond : Condition) (hplain : m.HasPlainNames → cond.IsPlain)
      (hnumbers : cond.placeholders.map Placeholder.number =
        List.range' (params.length + 1) (t.params d ++ vs).length) :
      Adds d m c params cond (t.params d ++ vs)
  | never (t : Target) (ht : m.target? c.property = some t) (ho : c.operator = .oneOf)
      (hempty : c.operand = .list []) : Adds d m c params .never (t.params d)

/-- The parameters of a comparison follow those of what is compared. -/
lemma map_number_append {ps qs : List Placeholder} {vs ws : List Param}
    (hps : ps.map Placeholder.number = List.range' (params.length + 1) vs.length)
    (hqs : qs.map Placeholder.number = List.range' ((params ++ vs).length + 1) ws.length) :
    (ps ++ qs).map Placeholder.number =
      List.range' (params.length + 1) (vs ++ ws).length := by
  rw [List.map_append, hps, hqs, List.length_append, List.length_append, Nat.add_right_comm]
  exact List.range'_append_1

/-- The condition of a criterion, and the parameters that are registered for it. -/
theorem adds_of_condition {cond : Condition}
    (h : (c.condition m d).runOn params = (.ok cond, params')) :
    ∃ added, params' = params ++ added ∧ c.Adds d m params cond added := by
  cases becomes_of_condition h with
  | @never t _ _ ht he ho hitems =>
      obtain ⟨rfl, -, -⟩ := targetExpr_eq_ok he
      exact ⟨_, rfl, .never t ht ho (Operand.items_eq_nil_iff.mp hitems)⟩
  | @oneOf t e _ _ ps ht he ho hitems hps =>
      obtain ⟨rfl, hexpr, hplain⟩ := targetExpr_eq_ok he
      -- the parameter of the path is registered first, if there is one, and those of the operands
      -- behind it
      obtain ⟨vs, rfl, hvs, hnumbers⟩ := registerOperands_eq_ok hps
      have hoperands : c.operands = c.operand.items := by rw [operands, ho]
      refine ⟨_, List.append_assoc .., .compared t ht vs (hoperands ▸ hitems) (hoperands ▸ hvs) _
        (fun hm => hplain (hm.columns _ (TableMapping.columnOf_mem ht))) ?_⟩
      exact map_number_append hexpr hnumbers
  | @compare t e _ op v ht he ho _ hv =>
      obtain ⟨rfl, hexpr, hplain⟩ := targetExpr_eq_ok he
      have hoperands : c.operands = [c.operand] := by rw [operands, ho]
      have hvs : List.Forall₂ (fun o v => o.param? t.kind = some v) c.operands [v] := by
        rw [hoperands]
        exact .cons (coerce_eq_ok_iff.mp hv) .nil
      have hne : c.operands ≠ [] := by
        rw [hoperands]
        exact List.cons_ne_nil _ _
      refine ⟨_, List.append_assoc .., .compared t ht [v] hne hvs _
        (fun hm => hplain (hm.columns _ (TableMapping.columnOf_mem ht))) ?_⟩
      exact map_number_append hexpr rfl

/-- Do the places in a text stand for what a criterion compares?  They stand for what leads to the
property, and behind that for the operands; where there is nothing that the property could be, there
are no places. -/
inductive Fills (d : Dialect) (m : TableMapping) (params : List Param) (c : Criterion)
    (text : String) : Prop where
  | compared (t : Target) (ht : m.target? c.property = some t) (vs : List Param)
      (hne : c.operands ≠ [])
      (hvs : List.Forall₂ (fun o v => o.param? t.kind = some v) c.operands vs)
      (hplaces : (Text.places text).map (paramAt? params) = (t.params d ++ vs).map some)
  | never (t : Target) (ht : m.target? c.property = some t) (ho : c.operator = .oneOf)
      (hempty : c.operand = .list []) (hplaces : Text.places text = [])

/-- Is a parameter what leads to the property of a criterion, which could be nothing? -/
def Spares (d : Dialect) (m : TableMapping) (c : Criterion) (v : Param) : Prop :=
  c.operator = .oneOf ∧ c.operand = .list [] ∧
    ∃ t, m.target? c.property = some t ∧ v ∈ t.params d

section Adds

variable {cond : Condition} {added : List Param}

lemma Adds.isPlain (h : c.Adds d m params cond added) (hm : m.HasPlainNames) : cond.IsPlain := by
  cases h with
  | compared t ht vs hne hvs cond hplain hnumbers => exact hplain hm
  | never t ht ho hempty => trivial

/-- The places in a condition are the numbers of all that its criterion adds, or none. -/
lemma Adds.places_eq (h : c.Adds d m params cond added) (hm : m.HasPlainNames) :
    Text.places cond.sql = List.range' (params.length + 1) added.length ∨
      Text.places cond.sql = [] ∧ ∀ v ∈ added, c.Spares d m v := by
  rw [(Condition.shows_sql (h.isPlain hm)).places_eq]
  cases h with
  | compared t ht vs hne hvs cond hplain hnumbers => exact .inl hnumbers
  | never t ht ho hempty => exact .inr ⟨rfl, fun v hv => ⟨ho, hempty, t, ht, hv⟩⟩

/-- They go on standing for what the criterion compares when more parameters are added. -/
lemma Adds.fills (h : c.Adds d m params cond added) (hm : m.HasPlainNames) (more : List Param) :
    c.Fills d m (params ++ added ++ more) cond.sql := by
  have hplaces := (Condition.shows_sql (h.isPlain hm)).places_eq
  cases h with
  | compared t ht vs hne hvs cond hplain hnumbers =>
      refine .compared t ht vs hne hvs ?_
      rw [hplaces, hnumbers]
      exact map_paramAt?_range' params _ more
  | never t ht ho hempty => exact .never t ht ho hempty hplaces

end Adds

end Criterion

/-! ### The conditions of a filter -/

/-- The places in conditions, read from left to right. -/
def placesOf (conditions : List Condition) : List Nat :=
  conditions.flatMap fun cond => Text.places cond.sql

lemma placesOf_cons (cond : Condition) (conditions : List Condition) :
    placesOf (cond :: conditions) = Text.places cond.sql ++ placesOf conditions := List.flatMap_cons

/-- Do the conditions of a filter line up with the parameters that were added for them?  All
parameters that were there stay where they were, each place stands for what its criterion compares,
and parameters without a place are those of criteria with nothing that the property could be. -/
structure IsLinedUp (m : TableMapping) (d : Dialect) (filter : List Criterion)
    (before : List Param) (conditions : List Condition) (after : List Param) : Prop where
  isPrefix : before <+: after
  increasing : (placesOf conditions).Pairwise (· < ·)
  inRange : ∀ n ∈ placesOf conditions, before.length < n ∧ n ≤ after.length
  fills : List.Forall₂ (fun c cond => c.Fills d m after cond.sql) filter conditions
  spares : ∀ n, before.length < n → n ≤ after.length → n ∉ placesOf conditions →
    ∃ c ∈ filter, ∃ v, paramAt? after n = some v ∧ c.Spares d m v

namespace IsLinedUp

variable {m : TableMapping} {d : Dialect} {c : Criterion} {filter : List Criterion}
  {cond : Condition} {conditions : List Condition} {before added after : List Param}

/-- Without criteria there are no conditions. -/
lemma nil (m : TableMapping) (d : Dialect) (params : List Param) :
    IsLinedUp m d [] params [] params where
  isPrefix := List.prefix_refl _
  increasing := .nil
  inRange := fun n hn => by cases hn
  fills := .nil
  spares := fun n hlt hle _ => absurd hle (Nat.not_le.mpr hlt)

/-- One more criterion in front of others, which begin where it ends. -/
lemma cons (hm : m.HasPlainNames) (hadds : c.Adds d m before cond added)
    (h : IsLinedUp m d filter (before ++ added) conditions after) :
    IsLinedUp m d (c :: filter) before (cond :: conditions) after := by
  obtain ⟨more, rfl⟩ := h.isPrefix
  have hplaces := hadds.places_eq hm
  have hhere : ∀ n ∈ Text.places cond.sql, n ∈ List.range' (before.length + 1) added.length := by
    intro n hn
    rcases hplaces with hplaces | ⟨hplaces, -⟩
    · exact hplaces ▸ hn
    · rw [hplaces] at hn
      cases hn
  -- a condition shows its own numbers in ascending order, or none at all
  have hincreasing : (Text.places cond.sql).Pairwise (· < ·) := by
    rcases hplaces with hplaces | ⟨hplaces, -⟩ <;> rw [hplaces]
    · exact List.pairwise_lt_range'
    · exact .nil
  have hlength : (before ++ added).length = before.length + added.length := List.length_append
  have hmore : (before ++ added ++ more).length = (before ++ added).length + more.length :=
    List.length_append
  refine ⟨⟨added ++ more, (List.append_assoc ..).symm⟩, ?increasing, ?inRange,
    .cons (hadds.fills hm more) h.fills, ?spares⟩
  case increasing =>
    rw [placesOf_cons]
    refine List.pairwise_append.mpr ⟨hincreasing, h.increasing, fun n hn k hk => ?_⟩
    have hn := List.mem_range'_1.mp (hhere n hn)
    have hk := h.inRange k hk
    omega
  case inRange =>
    intro n hn
    rw [placesOf_cons] at hn
    rcases List.mem_append.mp hn with hn | hn
    · have hn := List.mem_range'_1.mp (hhere n hn)
      omega
    · have hn := h.inRange n hn
      omega
  case spares =>
    intro n hlt hle hnot
    rw [placesOf_cons, List.mem_append, not_or] at hnot
    -- a number that is not shown belongs to an unused path, here or further on
    by_cases hn : n ∈ List.range' (before.length + 1) added.length
    · rcases hplaces with hplaces | ⟨-, hspares⟩
      · exact absurd (hplaces.symm ▸ hn) hnot.1
      · obtain ⟨v, hv, hat⟩ := exists_paramAt? more hn
        exact ⟨c, List.mem_cons_self .., v, hat, hspares v hv⟩
    · rw [List.mem_range'_1] at hn
      obtain ⟨c', hc', hspares⟩ := h.spares n (by omega) hle hnot.2
      exact ⟨c', List.mem_cons_of_mem _ hc', hspares⟩

end IsLinedUp

section Filter

variable {m : TableMapping} {d : Dialect} {filter : List Criterion} {params params' : List Param}
  {conditions : List Condition}

/-- The conditions of a filter line up with the parameters that are registered for them. -/
theorem isLinedUp_of_filterConditions (hm : m.HasPlainNames)
    (h : (filterConditions m d filter).runOn params = (.ok conditions, params')) :
    IsLinedUp m d filter params conditions params' := by
  induction filter generalizing params conditions with
  | nil =>
      obtain ⟨rfl, rfl⟩ := Binding.pure_eq_ok.mp h
      exact .nil m d params
  | cons c rest ih =>
      obtain ⟨cond, _, hc, h⟩ := Binding.bind_eq_ok.mp h
      obtain ⟨more, _, hrest, h⟩ := Binding.bind_eq_ok.mp h
      obtain ⟨rfl, rfl⟩ := Binding.pure_eq_ok.mp h
      obtain ⟨added, rfl, hadds⟩ := Criterion.adds_of_condition hc
      exact .cons hm hadds (ih hrest)

/-- The names in the conditions of a filter are those of the table. -/
lemma isPlain_of_filterConditions (hm : m.HasPlainNames)
    (h : (filterConditions m d filter).runOn params = (.ok conditions, params')) :
    ∀ cond ∈ conditions, cond.IsPlain := by
  induction filter generalizing params conditions with
  | nil =>
      obtain ⟨rfl, rfl⟩ := Binding.pure_eq_ok.mp h
      exact List.forall_mem_nil _
  | cons c rest ih =>
      obtain ⟨cond, _, hc, h⟩ := Binding.bind_eq_ok.mp h
      obtain ⟨more, _, hrest, h⟩ := Binding.bind_eq_ok.mp h
      obtain ⟨rfl, rfl⟩ := Binding.pure_eq_ok.mp h
      obtain ⟨added, rfl, hadds⟩ := Criterion.adds_of_condition hc
      exact List.forall_mem_cons.mpr ⟨hadds.isPlain hm, ih hrest⟩

end Filter

/-! ### Statements -/

lemma placesOf_eq_flatMap {conditions : List Condition} (h : ∀ cond ∈ conditions, cond.IsPlain) :
    placesOf conditions =
      conditions.flatMap fun cond => cond.placeholders.map Placeholder.number :=
  List.flatMap_congr fun cond hcond => (Condition.shows_sql (h cond hcond)).places_eq

/-- Does a query consist of the conditions of a filter, which line up with its first parameters, and
of places for some more parameters, which are its last? -/
structure Select.Bound.IsLinedUp (b : Select.Bound) (m : TableMapping) (d : Dialect)
    (filter : List Criterion) (last : List Param) : Prop where
  filtered : ∃ conditions params, LeasedStore.IsLinedUp m d filter [] conditions params ∧
    conditions <+: b.query.conditions ∧ b.params = params ++ last ∧
    Text.places b.statement.sql =
      placesOf conditions ++ List.range' (params.length + 1) last.length
  increasing : (Text.places b.statement.sql).Pairwise (· < ·)
  inRange : ∀ n ∈ Text.places b.statement.sql, 0 < n ∧ n ≤ b.params.length

/-- A query that begins with the conditions of a filter and goes on with placeholders of the numbers
that follow. -/
lemma Select.Bound.isLinedUp_of_numbers {m : TableMapping} {d : Dialect} {filter : List Criterion}
    {conditions more : List Condition} {params last : List Param} {b : Select.Bound}
    (hm : m.HasPlainNames)
    (hfilter : (filterConditions m d filter).runOn [] = (.ok conditions, params))
    (hplain : b.query.IsPlain) (hconditions : b.query.conditions = conditions ++ more)
    (hparams : b.params = params ++ last)
    (hnumbers : (more.flatMap fun cond => cond.placeholders.map Placeholder.number) ++
      b.query.limit.toList.map Placeholder.number ++ b.query.offset.toList.map Placeholder.number =
        List.range' (params.length + 1) last.length) :
    b.IsLinedUp m d filter last := by
  have hlined := isLinedUp_of_filterConditions hm hfilter
  -- what stands behind the filter goes on numbering where the filter stopped
  have hplaces : Text.places b.statement.sql =
      placesOf conditions ++ List.range' (params.length + 1) last.length := by
    rw [Select.Bound.statement, Select.places_sql hplain, hconditions, List.flatMap_append,
      placesOf_eq_flatMap (isPlain_of_filterConditions hm hfilter), ← hnumbers]
    simp only [List.append_assoc]
  refine ⟨⟨conditions, params, hlined, ⟨more, hconditions.symm⟩, hparams, hplaces⟩, ?_, ?_⟩
  · rw [hplaces]
    refine List.pairwise_append.mpr ⟨hlined.increasing, List.pairwise_lt_range',
      fun n hn k hk => ?_⟩
    have hn := hlined.inRange n hn
    have hk := List.mem_range'_1.mp hk
    omega
  · intro n hn
    rw [hparams, List.length_append]
    rw [hplaces] at hn
    rcases List.mem_append.mp hn with hn | hn
    · have hn := hlined.inRange n hn
      omega
    · have hn := List.mem_range'_1.mp hn
      omega

namespace TableMapping

variable {m : TableMapping} {d : Dialect} {filter : List Criterion}

lemma HasPlainNames.columnNames (hm : m.HasPlainNames) :
    ∀ name ∈ m.columnNames, '$' ∉ name.toList := by
  intro name hname
  obtain ⟨c, hc, rfl⟩ := List.mem_map.mp hname
  exact hm.columns c hc

/-- The columns that rows are sorted by have no dollar signs in their names. -/
lemma HasPlainNames.order (hm : m.HasPlainNames) {spec : QuerySpec}
    {order : List (String × SortOrder)} (h : m.order spec = .ok order) :
    ∀ o ∈ order, '$' ∉ o.1.toList := by
  rw [TableMapping.order] at h
  split at h
  · cases h
    exact List.forall_mem_singleton.mpr hm.idColumn
  · split at h
    · cases h
    · next c hc =>
      have hname := hm.columns c (plainColumn?_eq_some_iff.mp hc).1.mem
      split at h <;> cases h
      · exact List.forall_mem_singleton.mpr hname
      · exact List.forall_mem_cons.mpr ⟨hname, List.forall_mem_singleton.mpr hm.idColumn⟩

lemma HasPlainNames.projection (hm : m.HasPlainNames) :
    ∀ names, Projection.columns m.columnNames = .columns names →
      ∀ name ∈ names, '$' ∉ name.toList := by
  rintro names ⟨rfl⟩
  exact hm.columnNames

/-- The query of a specification ends with limit and offset. -/
lemma isLinedUp_of_select (hm : m.HasPlainNames) {spec : QuerySpec} {b : Select.Bound}
    (h : m.select d spec = .ok b) :
    b.IsLinedUp m d spec.filter [countParam spec.limit, countParam spec.offset] := by
  obtain ⟨query, params'⟩ := b
  have hrun := Select.Bound.of_eq_ok.mp h
  obtain ⟨conditions, params, hfilter, hrun⟩ := Binding.bind_eq_ok.mp hrun
  obtain ⟨order, _, hlift, hrun⟩ := Binding.bind_eq_ok.mp hrun
  obtain ⟨horder, rfl⟩ := Binding.lift_eq_ok.mp hlift
  obtain ⟨limit, _, hlimit, hrun⟩ := Binding.bind_eq_ok.mp hrun
  obtain ⟨rfl, rfl⟩ := Binding.register_eq_ok.mp hlimit
  obtain ⟨offset, _, hoffset, hrun⟩ := Binding.bind_eq_ok.mp hrun
  obtain ⟨rfl, rfl⟩ := Binding.register_eq_ok.mp hoffset
  obtain ⟨rfl, rfl⟩ := Binding.pure_eq_ok.mp hrun
  have hplain := isPlain_of_filterConditions hm hfilter
  refine Select.Bound.isLinedUp_of_numbers hm hfilter
    ⟨hm.projection, hm.table, hplain, hm.order horder⟩ (List.append_nil _).symm
    (List.append_assoc ..) ?_
  rw [List.length_append]
  rfl

/-- The query that counts ends with its conditions. -/
lemma isLinedUp_of_count (hm : m.HasPlainNames) {b : Select.Bound}
    (h : m.count d filter = .ok b) : b.IsLinedUp m d filter [] := by
  obtain ⟨query, params'⟩ := b
  have hrun := Select.Bound.of_eq_ok.mp h
  obtain ⟨conditions, params, hfilter, hrun⟩ := Binding.bind_eq_ok.mp hrun
  obtain ⟨rfl, rfl⟩ := Binding.pure_eq_ok.mp hrun
  have hplain := isPlain_of_filterConditions hm hfilter
  exact Select.Bound.isLinedUp_of_numbers hm hfilter
    ⟨nofun, hm.table, hplain, List.forall_mem_nil _⟩ (List.append_nil _).symm
    (List.append_nil _).symm rfl

end TableMapping

/-- The query for entities that are free ends with their kind, the instant and the limit. -/
lemma EntityStore.isLinedUp_of_unleasedBinding {α : Type} [StatefulEntity α] {s : EntityStore α}
    {d : Dialect} {filter : List Criterion} {max : UInt32} {now : Int64} {b : Select.Bound}
    (hm : s.mapping.HasPlainNames)
    (htimestamp : '$' ∉ (StatefulEntity.stateTimestampColumn α).toList)
    (h : Select.Bound.of (s.unleasedBinding d max filter now) = .ok b) :
    b.IsLinedUp s.mapping d filter [.text s.kind, .int now, TableMapping.countParam max] := by
  obtain ⟨query, params'⟩ := b
  have hrun := Select.Bound.of_eq_ok.mp h
  obtain ⟨conditions, params, hfilter, hrun⟩ := Binding.bind_eq_ok.mp hrun
  obtain ⟨free, _, hfree, hrun⟩ := Binding.bind_eq_ok.mp hrun
  rw [LeaseManager.runOn_unleased] at hfree
  cases hfree
  obtain ⟨limit, _, hlimit, hrun⟩ := Binding.bind_eq_ok.mp hrun
  obtain ⟨rfl, rfl⟩ := Binding.register_eq_ok.mp hlimit
  obtain ⟨rfl, rfl⟩ := Binding.pure_eq_ok.mp hrun
  have hplain := isPlain_of_filterConditions hm hfilter
  have hid : '$' ∉ (s.mapping.table ++ "." ++ s.mapping.idColumn).toList :=
    Text.plain_append (Text.plain_append hm.table (by simp)) hm.idColumn
  refine Select.Bound.isLinedUp_of_numbers hm hfilter ⟨hm.projection, hm.table, ?_, ?_⟩ rfl
    (List.append_assoc ..) ?_
  · exact List.forall_mem_append.mpr ⟨hplain, List.forall_mem_singleton.mpr hid⟩
  · exact List.forall_mem_cons.mpr ⟨htimestamp, List.forall_mem_singleton.mpr hm.idColumn⟩
  · rw [List.length_append]
    rfl

/-- Places and parameters line up in either dialect: the conditions of a filter with the parameters
that are added to those that there are, and with nothing in front of them those of a query, of a
count and of a query for entities that are free. -/
theorem TableMapping.isLinedUp {m : TableMapping} (hm : m.HasPlainNames) (d : Dialect)
    (filter : List Criterion) :
    (∀ params conditions params',
      (filterConditions m d filter).runOn params = (.ok conditions, params') →
        IsLinedUp m d filter params conditions params') ∧
    (∀ spec b, spec.filter = filter → m.select d spec = .ok b →
      b.IsLinedUp m d filter [countParam spec.limit, countParam spec.offset]) ∧
    (∀ b, m.count d filter = .ok b → b.IsLinedUp m d filter []) ∧
    ∀ (α : Type) [StatefulEntity α] (s : EntityStore α) (max : UInt32) (now : Int64) b,
      s.mapping = m → '$' ∉ (StatefulEntity.stateTimestampColumn α).toList →
        Select.Bound.of (s.unleasedBinding d max filter now) = .ok b →
          b.IsLinedUp m d filter [.text s.kind, .int now, countParam max] := by
  refine ⟨?filter, ?select, ?count, ?unleased⟩
  case filter =>
    intro params conditions params' h
    exact isLinedUp_of_filterConditions hm h
  case select =>
    rintro spec b rfl h
    exact isLinedUp_of_select hm h
  case count =>
    intro b h
    exact isLinedUp_of_count hm h
  case unleased =>
    rintro α _ s max now b rfl htimestamp h
    exact EntityStore.isLinedUp_of_unleasedBinding hm htimestamp h

/-- Behind one parameter, keys that are led to by nothing keep their numbers, and the places that
follow go on behind them. -/
theorem TableMapping.isLinedUp_of_empty_list :
    let m : TableMapping := Asset.schema.mapping
    let filter : List Criterion := [⟨"properties.a.b", .oneOf, .list []⟩,
      ⟨"properties.c", .equal, .int 7⟩, ⟨"id", .oneOf, .list [.text "$1", .int 2]⟩]
    let spec : QuerySpec := { QuerySpec.new with filter := filter }
    let states : List Criterion := [⟨"state", .compare .less, .text "-20"⟩]
    let s : EntityStore ContractNegotiation := ⟨1, 1, by decide⟩
    (∃ conditions params, (filterConditions m .postgres filter).runOn [.int 9] =
        (.ok conditions, params) ∧
      IsLinedUp m .postgres filter [.int 9] conditions params ∧ placesOf conditions = [4, 5, 6, 7] ∧
      params = [.int 9, .text "a", .text "b", .text "c", .text "7", .text "$1", .text "2"]) ∧
    (∃ b, m.select .postgres spec = .ok b ∧
      b.IsLinedUp m .postgres filter [countParam spec.limit, countParam spec.offset]) ∧
    (∃ b, m.count .postgres filter = .ok b ∧ b.IsLinedUp m .postgres filter []) ∧
    ∃ b, Select.Bound.of (s.unleasedBinding .sqlite 5 states (-1)) = .ok b ∧
      b.IsLinedUp s.mapping .sqlite states [.text s.kind, .int (-1), countParam 5] := by
  intro m filter spec states s
  have hm : m.HasPlainNames := ⟨by decide +kernel, by decide +kernel, by decide +kernel⟩
  have hs : s.mapping.HasPlainNames := ⟨by decide +kernel, by decide +kernel, by decide +kernel⟩
  obtain ⟨hfilter, hselect, hcount, -⟩ := TableMapping.isLinedUp hm .postgres filter
  obtain ⟨-, -, -, hunleased⟩ := TableMapping.isLinedUp hs .sqlite states
  obtain ⟨b₁, h₁⟩ := Except.exists_of_isOk (x := m.select .postgres spec) (by decide +kernel)
  obtain ⟨b₂, h₂⟩ := Except.exists_of_isOk (x := m.count .postgres filter) (by decide +kernel)
  obtain ⟨b₃, h₃⟩ := Except.exists_of_isOk
    (x := Select.Bound.of (s.unleasedBinding .sqlite 5 states (-1))) (by decide +kernel)
  refine ⟨?_, ⟨b₁, h₁, hselect spec b₁ rfl h₁⟩, ⟨b₂, h₂, hcount b₂ h₂⟩,
    b₃, h₃, hunleased _ s 5 (-1) b₃ rfl (by decide +kernel) h₃⟩
  have hrun : (filterConditions m .postgres filter).runOn [.int 9] =
      (.ok [.never, .compare (.keysText "properties" [⟨4⟩]) .equal ⟨5⟩,
        .oneOf (.column "id") [⟨6⟩, ⟨7⟩]],
      [.int 9, .text "a", .text "b", .text "c", .text "7", .text "$1", .text "2"]) := by
    decide +kernel
  exact ⟨_, _, hrun, hfilter _ _ _ hrun, by decide +kernel, rfl⟩

end LeasedStore
