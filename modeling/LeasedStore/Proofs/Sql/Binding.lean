/-
Conditions and the parameters behind their places.

Parameters are registered one behind the other, and nothing takes one back.  So the place of a
parameter keeps standing for it, whatever is registered later, and what the conditions of a filter
mean can be said for all lists of parameters that begin with those registered so far.

* `Placeholder.param?_of_prefix`: a place stands for the same parameter in a longer list;
* `Expr.Reads`: does an expression read what a criterion looks at?
* `Condition.Says`: is a condition what a criterion says?
* `Criterion.Becomes`, `becomes_of_condition`: the ways of a criterion to become a condition;
* `forall₂_of_filterConditions`: the conditions of a filter say what its criteria say, one by one;
* `TableMapping.select_eq_ok`: the query of a specification;
* `TableMapping.exists_select`: there is one whatever its offset and limit are;
* `TableMapping.count_eq_ok`: the query that counts.
-/
import Mathlib.Tactic.Common
import Mathlib.Data.List.Forall2
import LeasedStore.Sql.Select

namespace LeasedStore

/-! ### Places -/

namespace Placeholder

variable {p : Placeholder} {params params' : List Param} {v : Param}

/-- A place stands for the same parameter in a longer list. -/
lemma param?_of_prefix (h : p.param? params = some v) (hp : params <+: params') :
    p.param? params' = some v := by
  obtain ⟨more, rfl⟩ := hp
  rw [param?] at h ⊢
  split at h
  · cases h
  · next hn =>
    have hlt : p.number - 1 < params.length := by
      by_contra hge
      rw [List.getElem?_eq_none (by omega)] at h
      cases h
    rw [if_neg hn, List.getElem?_append_left hlt, h]

lemma param?_next (params : List Param) (v : Param) :
    (⟨params.length + 1⟩ : Placeholder).param? (params ++ [v]) = some v := by
  simp [param?]

end Placeholder

/-! ### Bindings -/

namespace Binding

variable {α β : Type} {x : Binding α} {f : α → Binding β} {a : α} {y : β}
  {params params' : List Param}

/-- A binding that goes on with the result of another one. -/
lemma runOn_bind (x : Binding α) (f : α → Binding β) (params : List Param) :
    (x >>= f).runOn params =
      match x.runOn params with
      | (.ok a, params') => (f a).runOn params'
      | (.error e, params') => (.error e, params') := by
  change (ExceptT.bindCont f (x params).1) (x params).2 = _
  simp only [runOn]
  rcases x params with ⟨e | a, params'⟩ <;> rfl

lemma bind_eq_ok : (x >>= f).runOn params = (.ok y, params') ↔
    ∃ a between, x.runOn params = (.ok a, between) ∧ (f a).runOn between = (.ok y, params') := by
  rw [runOn_bind]
  rcases x.runOn params with ⟨e | a, between⟩ <;> simp

lemma pure_eq_ok {a' : α} : (pure a : Binding α).runOn params = (.ok a', params') ↔
    a = a' ∧ params = params' := by
  change ((Except.ok a : Except QueryError α), params) = _ ↔ _
  simp

lemma lift_eq_ok {r : Except QueryError α} :
    (lift r).runOn params = (.ok a, params') ↔ r = .ok a ∧ params = params' := by
  change (r, params) = _ ↔ _
  simp

lemma register_eq_ok {v : Param} {p : Placeholder} :
    (register v).runOn params = (.ok p, params') ↔
      ⟨params.length + 1⟩ = p ∧ params ++ [v] = params' := by
  change ((Except.ok ⟨params.length + 1⟩ : Except QueryError Placeholder), params ++ [v]) = _ ↔ _
  simp

lemma throw_ne_ok {e : QueryError} : (throw e : Binding α).runOn params ≠ (.ok a, params') := by
  intro h
  cases (Prod.mk.inj h).1

lemma param?_of_register {v : Param} {p : Placeholder}
    (h : (register v).runOn params = (.ok p, params')) :
    params <+: params' ∧ p.param? params' = some v := by
  obtain ⟨rfl, rfl⟩ := register_eq_ok.mp h
  exact ⟨List.prefix_append .., Placeholder.param?_next params v⟩

lemma bound_eq_ok {p : α × List Param} : x.bound = .ok p ↔ x.runOn [] = (.ok p.1, p.2) := by
  rw [bound]
  rcases x.runOn [] with ⟨e | a, params'⟩ <;> simp [Prod.ext_iff]

end Binding

/-! ### What conditions say -/

lemma exists_of_forall₂ {α β : Type} {R : α → β → Prop} {xs : List α} {ys : List β} {y : β}
    (h : List.Forall₂ R xs ys) (hy : y ∈ ys) : ∃ x ∈ xs, R x y := by
  obtain ⟨i, hi, rfl⟩ := List.getElem_of_mem hy
  have hi' : i < xs.length := h.length_eq ▸ hi
  exact ⟨xs[i], List.getElem_mem hi', h.get hi' hi⟩

/-- What is related to the last element of a list is the last one of the other list. -/
lemma exists_of_forall₂_concat {α β : Type} {R : α → β → Prop} {xs : List α} {x : α}
    {ys : List β} (h : List.Forall₂ R (xs ++ [x]) ys) :
    ∃ ys' y, ys = ys' ++ [y] ∧ List.Forall₂ R xs ys' ∧ R x y := by
  rw [← List.forall₂_reverse_iff, List.reverse_append, List.reverse_singleton,
    List.singleton_append, List.forall₂_cons_left_iff] at h
  obtain ⟨y, ys', hy, hxs, hys⟩ := h
  refine ⟨ys'.reverse, y, (List.reverse_eq_iff.mp hys).trans List.reverse_cons, ?_, hy⟩
  rwa [← List.forall₂_reverse_iff, List.reverse_reverse]

/-- Does an expression read what a criterion looks at? -/
inductive Expr.Reads (params : List Param) : Expr → Target → Prop where
  | column (c : Column) : Reads params (.column c.name) (.column c)
  | member (c : Column) (keys : List String) (path : Placeholder)
      (h : path.param? params = some (.text (JsonPath.text keys))) :
      Reads params (.pathText c.name path) (.member c keys)

/-- Do places stand for the parameters that some operands become? -/
def Placeholder.StandsFor (params : List Param) (table property : String) (kind : ColumnKind)
    (o : Operand) (p : Placeholder) : Prop :=
  ∃ v, coerce table property kind o = .ok v ∧ p.param? params = some v

/-- Is a condition what a criterion says? -/
inductive Condition.Says (params : List Param) (m : TableMapping) (c : Criterion) :
    Condition → Prop where
  | compare (target : Target) (ht : m.target? c.property = some target) (e : Expr)
      (he : e.Reads params target) (op : Comparison) (ho : c.operator = .compare op)
      (hlike : op = .like → target.kind = .text) (p : Placeholder)
      (hp : p.StandsFor params m.table c.property target.kind c.operand) :
      Says params m c (.compare e op p)
  | oneOf (target : Target) (ht : m.target? c.property = some target) (e : Expr)
      (he : e.Reads params target) (ho : c.operator = .oneOf) (ps : List Placeholder)
      (hp : List.Forall₂ (Placeholder.StandsFor params m.table c.property target.kind)
        c.operand.items ps) :
      Says params m c (.oneOf e ps)
  /-- There is nothing that the property could be. -/
  | never (target : Target) (ht : m.target? c.property = some target) (ho : c.operator = .oneOf)
      (hempty : c.operand.items = []) :
      Says params m c .never

section Prefix

variable {params params' : List Param} {m : TableMapping} {c : Criterion} {d : Dialect}

lemma Expr.Reads.of_prefix {e : Expr} {t : Target} (h : e.Reads params t)
    (hp : params <+: params') : e.Reads params' t := by
  cases h with
  | column c => exact .column c
  | member c keys path h => exact .member c keys path (Placeholder.param?_of_prefix h hp)

lemma Placeholder.StandsFor.of_prefix {table property : String} {kind : ColumnKind} {o : Operand}
    {p : Placeholder} (h : p.StandsFor params table property kind o) (hp : params <+: params') :
    p.StandsFor params' table property kind o := by
  obtain ⟨v, hv, h⟩ := h
  exact ⟨v, hv, Placeholder.param?_of_prefix h hp⟩

/-- A condition goes on saying what it says when more parameters are registered. -/
lemma Condition.Says.of_prefix {cond : Condition} (h : cond.Says params m c)
    (hp : params <+: params') : cond.Says params' m c := by
  cases h with
  | compare target ht e he op ho hlike p hs =>
      exact .compare target ht e (he.of_prefix hp) op ho hlike p (hs.of_prefix hp)
  | oneOf target ht e he ho ps hs =>
      exact .oneOf target ht e (he.of_prefix hp) ho ps (hs.imp fun _ _ h => h.of_prefix hp)
  | never target ht ho hempty => exact .never target ht ho hempty

end Prefix

/-! ### From criteria to conditions -/

namespace Criterion

variable {m : TableMapping} {d : Dialect} {c : Criterion} {table : String} {kind : ColumnKind}
  {params params' : List Param}

lemma condition_of_target? {t : Target} (ht : m.target? c.property = some t) :
    c.condition m d = targetExpr d t >>= conditionOn m.table c t.kind := by
  rw [condition, ht]

/-- The condition of a comparison that can be made. -/
lemma conditionOn_of_compare {op : Comparison} (ho : c.operator = .compare op)
    (hlike : op = .like → kind = .text) (e : Expr) :
    conditionOn table c kind e = (do
      let place ← Binding.register (← Binding.lift (coerce table c.property kind c.operand))
      return .compare e op place) := by
  rw [conditionOn, ho]
  exact if_neg fun h => h.2 (hlike h.1)

lemma conditionOn_of_like (ho : c.operator = .compare .like) (hkind : kind ≠ .text) (e : Expr) :
    conditionOn table c kind e = throw (.likeUnsupported c.property) := by
  rw [conditionOn, ho]
  exact if_pos ⟨rfl, hkind⟩

lemma conditionOn_of_items (ho : c.operator = .oneOf) (hitems : c.operand.items ≠ []) (e : Expr) :
    conditionOn table c kind e =
      (do return .oneOf e (← registerOperands table c.property kind c.operand.items)) := by
  rw [conditionOn, ho]
  exact if_neg fun h => hitems (List.isEmpty_iff.mp h)

lemma conditionOn_of_no_items (ho : c.operator = .oneOf) (hitems : c.operand.items = [])
    (e : Expr) :
    conditionOn table c kind e = pure .never := by
  rw [conditionOn, ho]
  exact if_pos (List.isEmpty_iff.mpr hitems)

/-- The ways of a criterion to become a condition: first what it looks at is put into words, and
then its operands are registered, if there are any. -/
inductive Becomes (m : TableMapping) (d : Dialect) (c : Criterion) (params : List Param) :
    Condition → List Param → Prop
  | never {t : Target} {e : Expr} {between : List Param} (ht : m.target? c.property = some t)
      (he : (targetExpr d t).runOn params = (.ok e, between)) (ho : c.operator = .oneOf)
      (hitems : c.operand.items = []) : Becomes m d c params .never between
  | oneOf {t : Target} {e : Expr} {between params' : List Param} {ps : List Placeholder}
      (ht : m.target? c.property = some t)
      (he : (targetExpr d t).runOn params = (.ok e, between)) (ho : c.operator = .oneOf)
      (hitems : c.operand.items ≠ [])
      (hps : (registerOperands m.table c.property t.kind c.operand.items).runOn between =
        (.ok ps, params')) : Becomes m d c params (.oneOf e ps) params'
  | compare {t : Target} {e : Expr} {between : List Param} {op : Comparison} {v : Param}
      (ht : m.target? c.property = some t)
      (he : (targetExpr d t).runOn params = (.ok e, between)) (ho : c.operator = .compare op)
      (hlike : op = .like → t.kind = .text)
      (hv : coerce m.table c.property t.kind c.operand = .ok v) :
      Becomes m d c params (.compare e op ⟨between.length + 1⟩) (between ++ [v])

/-- There are no other ways. -/
lemma becomes_of_condition {cond : Condition}
    (h : (c.condition m d).runOn params = (.ok cond, params')) :
    c.Becomes m d params cond params' := by
  rw [condition] at h
  split at h
  · exact absurd h Binding.throw_ne_ok
  · next t ht =>
    obtain ⟨e, between, he, h⟩ := Binding.bind_eq_ok.mp h
    -- an empty list makes no condition, and a pattern is refused where there is no text
    cases ho : c.operator with
    | oneOf =>
        by_cases hitems : c.operand.items = []
        · rw [conditionOn_of_no_items ho hitems] at h
          obtain ⟨rfl, rfl⟩ := Binding.pure_eq_ok.mp h
          exact .never ht he ho hitems
        · rw [conditionOn_of_items ho hitems] at h
          obtain ⟨ps, _, hps, h⟩ := Binding.bind_eq_ok.mp h
          obtain ⟨rfl, rfl⟩ := Binding.pure_eq_ok.mp h
          exact .oneOf ht he ho hitems hps
    | compare op =>
        by_cases hlike : op = .like → t.kind = .text
        · rw [conditionOn_of_compare ho hlike] at h
          obtain ⟨v, _, hlift, h⟩ := Binding.bind_eq_ok.mp h
          obtain ⟨hv, rfl⟩ := Binding.lift_eq_ok.mp hlift
          obtain ⟨p, _, hp, h⟩ := Binding.bind_eq_ok.mp h
          obtain ⟨rfl, rfl⟩ := Binding.register_eq_ok.mp hp
          obtain ⟨rfl, rfl⟩ := Binding.pure_eq_ok.mp h
          exact .compare ht he ho hlike hv
        · obtain ⟨rfl, hkind⟩ := Classical.not_imp.mp hlike
          rw [conditionOn_of_like ho hkind] at h
          exact absurd h Binding.throw_ne_ok

end Criterion

/-! ### The conditions of a filter -/

variable {params params' : List Param} {m : TableMapping} {c : Criterion}

/-- The expression for what a criterion looks at reads it. -/
lemma Criterion.reads_of_targetExpr {t : Target} {e : Expr}
    (h : (targetExpr .sqlite t).runOn params = (.ok e, params')) :
    params <+: params' ∧ e.Reads params' t := by
  cases t with
  | column c =>
      obtain ⟨rfl, rfl⟩ := Binding.pure_eq_ok.mp h
      exact ⟨List.prefix_refl _, .column c⟩
  | member c keys =>
      obtain ⟨path, between, hr, h⟩ := Binding.bind_eq_ok.mp h
      obtain ⟨rfl, rfl⟩ := Binding.pure_eq_ok.mp h
      obtain ⟨hp, hv⟩ := Binding.param?_of_register hr
      exact ⟨hp, .member c keys path hv⟩

/-- An operand that is coerced and registered. -/
lemma Criterion.standsFor_of_register {table property : String} {kind : ColumnKind} {o : Operand}
    {p : Placeholder} (h : (do Binding.register (← Binding.lift (coerce table property kind o)) :
      Binding Placeholder).runOn params = (.ok p, params')) :
    params <+: params' ∧ p.StandsFor params' table property kind o := by
  obtain ⟨v, between, hl, hr⟩ := Binding.bind_eq_ok.mp h
  obtain ⟨hv, rfl⟩ := Binding.lift_eq_ok.mp hl
  obtain ⟨hp, hs⟩ := Binding.param?_of_register hr
  exact ⟨hp, v, hv, hs⟩

/-- The operands of a list, one behind the other. -/
lemma Criterion.standsFor_of_registerOperands {table property : String} {kind : ColumnKind}
    {os : List Operand} {ps : List Placeholder}
    (h : (registerOperands table property kind os).runOn params = (.ok ps, params')) :
    params <+: params' ∧
      List.Forall₂ (Placeholder.StandsFor params' table property kind) os ps := by
  induction os generalizing params ps with
  | nil =>
      obtain ⟨rfl, rfl⟩ := Binding.pure_eq_ok.mp h
      exact ⟨List.prefix_refl _, .nil⟩
  | cons o rest ih =>
      obtain ⟨v, between₁, hl, h⟩ := Binding.bind_eq_ok.mp h
      obtain ⟨p, between₂, hr, h⟩ := Binding.bind_eq_ok.mp h
      obtain ⟨more, between₃, hrest, h⟩ := Binding.bind_eq_ok.mp h
      obtain ⟨rfl, rfl⟩ := Binding.pure_eq_ok.mp h
      obtain ⟨hp₁, hs⟩ := standsFor_of_register (Binding.bind_eq_ok.mpr ⟨v, between₁, hl, hr⟩)
      obtain ⟨hp₂, hrest⟩ := ih hrest
      exact ⟨hp₁.trans hp₂, .cons (hs.of_prefix hp₂) hrest⟩

/-- The condition of a criterion says what the criterion says. -/
lemma Criterion.says_of_condition {cond : Condition}
    (h : (c.condition m .sqlite).runOn params = (.ok cond, params')) :
    params <+: params' ∧ cond.Says params' m c := by
  cases becomes_of_condition h with
  | never ht he ho hitems =>
      obtain ⟨hp, -⟩ := reads_of_targetExpr he
      exact ⟨hp, .never _ ht ho hitems⟩
  | oneOf ht he ho hitems hps =>
      obtain ⟨hp, he⟩ := reads_of_targetExpr he
      obtain ⟨hp', hs⟩ := standsFor_of_registerOperands hps
      exact ⟨hp.trans hp', .oneOf _ ht _ (he.of_prefix hp') ho _ hs⟩
  | @compare t e between op v ht he ho hlike hv =>
      obtain ⟨hp, he⟩ := reads_of_targetExpr he
      have hrun : (do Binding.register (← Binding.lift
        (coerce m.table c.property t.kind c.operand)) :
          Binding Placeholder).runOn between = (.ok ⟨between.length + 1⟩, between ++ [v]) :=
        Binding.bind_eq_ok.mpr ⟨v, between, Binding.lift_eq_ok.mpr ⟨hv, rfl⟩, rfl⟩
      obtain ⟨hp', hs⟩ := standsFor_of_register hrun
      exact ⟨hp.trans hp', .compare _ ht _ (he.of_prefix hp') op ho hlike _ hs⟩

/-- The conditions of a filter say what its criteria say, one by one. -/
theorem forall₂_of_filterConditions {filter : List Criterion} {conditions : List Condition}
    (h : (filterConditions m .sqlite filter).runOn params = (.ok conditions, params')) :
    params <+: params' ∧
      List.Forall₂ (fun c cond => cond.Says params' m c) filter conditions := by
  induction filter generalizing params conditions with
  | nil =>
      obtain ⟨rfl, rfl⟩ := Binding.pure_eq_ok.mp h
      exact ⟨List.prefix_refl _, .nil⟩
  | cons c rest ih =>
      obtain ⟨cond, between, hc, h⟩ := Binding.bind_eq_ok.mp h
      obtain ⟨more, between', hrest, h⟩ := Binding.bind_eq_ok.mp h
      obtain ⟨rfl, rfl⟩ := Binding.pure_eq_ok.mp h
      obtain ⟨hp, hs⟩ := Criterion.says_of_condition hc
      obtain ⟨hp', hrest⟩ := ih hrest
      exact ⟨hp.trans hp', .cons (hs.of_prefix hp') hrest⟩

/-- The conditions of two filters, one behind the other. -/
lemma filterConditions_append {m : TableMapping} {params params' params'' : List Param}
    {conditions conditions' : List Condition} {xs ys : List Criterion}
    (hx : (filterConditions m .sqlite xs).runOn params = (.ok conditions, params'))
    (hy : (filterConditions m .sqlite ys).runOn params' = (.ok conditions', params'')) :
    (filterConditions m .sqlite (xs ++ ys)).runOn params =
      (.ok (conditions ++ conditions'), params'') := by
  induction xs generalizing params conditions with
  | nil =>
      obtain ⟨rfl, rfl⟩ := Binding.pure_eq_ok.mp hx
      exact hy
  | cons c rest ih =>
      obtain ⟨cond, between, hc, hx⟩ := Binding.bind_eq_ok.mp hx
      obtain ⟨more, between', hrest, hx⟩ := Binding.bind_eq_ok.mp hx
      obtain ⟨rfl, rfl⟩ := Binding.pure_eq_ok.mp hx
      exact Binding.bind_eq_ok.mpr ⟨cond, between, hc, Binding.bind_eq_ok.mpr
        ⟨_, _, ih hrest, Binding.pure_eq_ok.mpr ⟨rfl, rfl⟩⟩⟩

/-! ### Queries -/

/-- A query with its parameters comes from a run that starts without any. -/
lemma Select.Bound.of_eq_ok {x : Binding Select} {b : Select.Bound} :
    Bound.of x = .ok b ↔ x.runOn [] = (.ok b.query, b.params) := by
  rw [Bound.of]
  cases hb : x.bound with
  | error e =>
      have hne : x.runOn [] ≠ (.ok b.query, b.params) := fun h => by
        have hbound : x.bound = .ok (b.query, b.params) := Binding.bound_eq_ok.mpr h
        rw [hb] at hbound
        cases hbound
      simp [Except.map, hne]
  | ok p =>
      rw [Binding.bound_eq_ok.mp hb]
      obtain ⟨q, params⟩ := b
      simp [Except.map]

/-- The query of a specification: its conditions say what the criteria say, and its last two
parameters are limit and offset. -/
lemma TableMapping.select_eq_ok {spec : QuerySpec} {b : Select.Bound}
    (h : m.select .sqlite spec = .ok b) :
    ∃ conditions order limit offset,
      b.query = ⟨.columns m.columnNames, m.table, conditions, order, some limit, some offset⟩ ∧
      List.Forall₂ (fun c cond => cond.Says b.params m c) spec.filter conditions ∧
      m.order spec = .ok order ∧
      limit.param? b.params = some (countParam spec.limit) ∧
      offset.param? b.params = some (countParam spec.offset) := by
  have hrun := Select.Bound.of_eq_ok.mp h
  obtain ⟨conditions, ps₁, hc, hrun⟩ := Binding.bind_eq_ok.mp hrun
  obtain ⟨order, ps₂, hlift, hrun⟩ := Binding.bind_eq_ok.mp hrun
  obtain ⟨limit, ps₃, hl, hrun⟩ := Binding.bind_eq_ok.mp hrun
  obtain ⟨offset, ps₄, hoff, hrun⟩ := Binding.bind_eq_ok.mp hrun
  obtain ⟨hq, hps⟩ := Binding.pure_eq_ok.mp hrun
  obtain ⟨ho, rfl⟩ := Binding.lift_eq_ok.mp hlift
  obtain ⟨hp₃, hlimit⟩ := Binding.param?_of_register hl
  obtain ⟨hp₄, hoffset⟩ := Binding.param?_of_register hoff
  obtain ⟨-, hmeaning⟩ := forall₂_of_filterConditions hc
  subst hps
  refine ⟨conditions, order, limit, offset, hq.symm, ?_, ho,
    Placeholder.param?_of_prefix hlimit hp₄, hoffset⟩
  -- what was registered first keeps its number behind limit and offset
  exact hmeaning.imp fun _ _ hs => hs.of_prefix (hp₃.trans hp₄)

/-- Whether there is a query for a specification has nothing to do with offset and limit. -/
lemma TableMapping.exists_select {spec : QuerySpec} {b : Select.Bound}
    (h : m.select .sqlite spec = .ok b) (offset limit : UInt32) :
    ∃ b', m.select .sqlite { spec with offset := offset, limit := limit } = .ok b' := by
  obtain ⟨conditions, ps₁, hc, hrun⟩ := Binding.bind_eq_ok.mp (Select.Bound.of_eq_ok.mp h)
  obtain ⟨order, ps₂, hlift, -⟩ := Binding.bind_eq_ok.mp hrun
  obtain ⟨ho, rfl⟩ := Binding.lift_eq_ok.mp hlift
  refine ⟨⟨⟨.columns m.columnNames, m.table, conditions, order, _, _⟩, _⟩,
    Select.Bound.of_eq_ok.mpr (Binding.bind_eq_ok.mpr ⟨conditions, ps₁, hc,
      Binding.bind_eq_ok.mpr ⟨order, ps₁, Binding.lift_eq_ok.mpr ⟨ho, rfl⟩,
        Binding.bind_eq_ok.mpr ⟨_, _, Binding.register_eq_ok.mpr ⟨rfl, rfl⟩,
          Binding.bind_eq_ok.mpr ⟨_, _, Binding.register_eq_ok.mpr ⟨rfl, rfl⟩, rfl⟩⟩⟩⟩)⟩

/-- The query that counts: it has the conditions of its filter and nothing else. -/
lemma TableMapping.count_eq_ok {filter : List Criterion} {b : Select.Bound}
    (h : m.count .sqlite filter = .ok b) :
    ∃ conditions, b.query = ⟨.count, m.table, conditions, [], none, none⟩ ∧
      (filterConditions m .sqlite filter).runOn [] = (.ok conditions, b.params) := by
  obtain ⟨conditions, params, hrun, h⟩ := Binding.bind_eq_ok.mp (Select.Bound.of_eq_ok.mp h)
  obtain ⟨hquery, rfl⟩ := Binding.pure_eq_ok.mp h
  exact ⟨conditions, hquery.symm, hrun⟩

end LeasedStore
