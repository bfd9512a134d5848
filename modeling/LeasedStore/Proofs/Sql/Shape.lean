/-
The text of a query knows nothing of the values in it.

Two specifications have the same shape if their criteria look at the same columns with the same
operators and if they sort by the same column.  The queries of both are built side by side: with as
many parameters registered, the same step puts the same text together and registers as many
parameters more, whatever they are.

* `Binding.Parallel`: two ways to build something with the same outcome and as many parameters;
* `Target.SameShape`, `Criterion.SameShape`, `QuerySpec.SameShape`: values aside, the same question;
* `Criterion.parallel_condition`, `parallel_filterConditions`: the conditions of both filters;
* `Select.sameText_of_sameShape`: the text of a query, of a count and of a search for candidates.
-/
import LeasedStore.Proofs.Results
import LeasedStore.Proofs.Sql.Binding
import LeasedStore.Store.Claim

namespace LeasedStore

/-! ### Building side by side -/

namespace Binding

variable {α β γ δ : Type}

/-- Do two bindings that both succeed, with as many parameters before them, have related results and
as many parameters behind them? -/
def Parallel (R : α → β → Prop) (x : Binding α) (y : Binding β) : Prop :=
  ∀ params params' a b after after', params.length = params'.length →
    x.runOn params = (.ok a, after) → y.runOn params' = (.ok b, after') →
      R a b ∧ after.length = after'.length

/-- Bindings without parameters. -/
lemma parallel_pure {R : α → β → Prop} {a : α} {b : β} (h : R a b) :
    Parallel R (pure a) (pure b) := by
  intro params params' a' b' after after' hlength ha hb
  obtain ⟨rfl, rfl⟩ := pure_eq_ok.mp ha
  obtain ⟨rfl, rfl⟩ := pure_eq_ok.mp hb
  exact ⟨h, hlength⟩

/-- Results that may be errors. -/
lemma parallel_lift {R : α → β → Prop} {r : Except QueryError α} {r' : Except QueryError β}
    (h : ∀ a b, r = .ok a → r' = .ok b → R a b) : Parallel R (lift r) (lift r') := by
  intro params params' a b after after' hlength ha hb
  obtain ⟨hr, rfl⟩ := lift_eq_ok.mp ha
  obtain ⟨hr', rfl⟩ := lift_eq_ok.mp hb
  exact ⟨h a b hr hr', hlength⟩

lemma parallel_throw_left {R : α → β → Prop} {e : QueryError} {y : Binding β} :
    Parallel R (throw e) y :=
  fun _ _ _ _ _ _ _ ha _ => absurd ha throw_ne_ok

lemma parallel_throw_right {R : α → β → Prop} {e : QueryError} {x : Binding α} :
    Parallel R x (throw e) :=
  fun _ _ _ _ _ _ _ _ hb => absurd hb throw_ne_ok

lemma parallel_register (v v' : Param) : Parallel (· = ·) (register v) (register v') := by
  intro params params' p p' after after' hlength hp hp'
  obtain ⟨rfl, rfl⟩ := register_eq_ok.mp hp
  obtain ⟨rfl, rfl⟩ := register_eq_ok.mp hp'
  exact ⟨by rw [hlength], by simp [hlength]⟩

/-- Bindings one behind the other. -/
lemma Parallel.bind {R : α → β → Prop} {S : γ → δ → Prop} {x : Binding α} {y : Binding β}
    {f : α → Binding γ} {g : β → Binding δ} (h : Parallel R x y)
    (hnext : ∀ a b, R a b → Parallel S (f a) (g b)) : Parallel S (x >>= f) (y >>= g) := by
  intro params params' c d after after' hlength hc hd
  obtain ⟨a, between, ha, hc⟩ := bind_eq_ok.mp hc
  obtain ⟨b, between', hb, hd⟩ := bind_eq_ok.mp hd
  obtain ⟨hR, hbetween⟩ := h params params' a b between between' hlength ha hb
  exact hnext a b hR between between' c d after after' hbetween hc hd

lemma Parallel.bind_eq {S : γ → δ → Prop} {x y : Binding α} {f : α → Binding γ}
    {g : α → Binding δ} (h : Parallel (· = ·) x y) (hnext : ∀ a, Parallel S (f a) (g a)) :
    Parallel S (x >>= f) (y >>= g) :=
  h.bind fun a _ hab => hab ▸ hnext a

/-- Two parameters that may be errors and what goes on with their places. -/
lemma parallel_lift_register {S : γ → δ → Prop} {r r' : Except QueryError Param}
    {f : Placeholder → Binding γ} {g : Placeholder → Binding δ}
    (hnext : ∀ place, Parallel S (f place) (g place)) :
    Parallel S (lift r >>= fun v => register v >>= f) (lift r' >>= fun v => register v >>= g) := by
  have hlift : Parallel (fun _ _ => True) (lift r) (lift r') := parallel_lift fun _ _ _ _ => trivial
  exact hlift.bind fun v v' _ => (parallel_register v v').bind_eq hnext

/-- Whatever some parameters are, as many have the same places. -/
lemma parallel_registerAll {vs vs' : List Param} (h : vs.length = vs'.length) :
    Parallel (· = ·) (registerAll vs) (registerAll vs') := by
  induction vs generalizing vs' with
  | nil =>
      rw [List.eq_nil_of_length_eq_zero h.symm]
      exact parallel_pure rfl
  | cons v rest ih =>
      cases vs' with
      | nil => cases h
      | cons v' rest' =>
          refine (parallel_register v v').bind_eq fun place => ?_
          refine (ih (Nat.succ.inj h)).bind_eq fun places => ?_
          exact parallel_pure rfl

end Binding

/-! ### The same question -/

/-- Do two criteria look at one column in the same way? -/
inductive Target.SameShape (d : Dialect) : Target → Target → Prop where
  | column {c c' : Column} (h : c.name = c'.name) : SameShape d (.column c) (.column c')
  | member {c c' : Column} {keys keys' : List String} (h : c.name = c'.name)
    (hkeys : d = .postgres → keys.length = keys'.length) :
    SameShape d (.member c keys) (.member c' keys')

/-- Do two criteria have the same operator, look at one column in the same way and list as many
values? -/
structure Criterion.SameShape (m : TableMapping) (d : Dialect) (c c' : Criterion) : Prop where
  operator : c.operator = c'.operator
  target : ∃ t t', m.target? c.property = some t ∧ m.target? c'.property = some t' ∧
    t.SameShape d t'
  items : c.operator = .oneOf → c.operand.items.length = c'.operand.items.length

/-- The name of the column that a specification sorts by. -/
def TableMapping.sortColumn? (m : TableMapping) (spec : QuerySpec) : Option String :=
  spec.sortField.bind fun property => (m.plainColumn? property).map Column.name

/-- Are two specifications the same, the values in their criteria and the part of the rows that they
ask for aside? -/
structure QuerySpec.SameShape (m : TableMapping) (d : Dialect) (spec spec' : QuerySpec) : Prop where
  filter : List.Forall₂ (Criterion.SameShape m d) spec.filter spec'.filter
  sortColumn : m.sortColumn? spec = m.sortColumn? spec'
  sortOrder : spec.sortOrder = spec'.sortOrder

/-! ### Conditions -/

open Binding

/-- The member of a column, whatever the keys are. -/
lemma Dialect.parallel_memberText {d : Dialect} {keys keys' : List String}
    (h : d = .postgres → keys.length = keys'.length) (column : String) :
    Parallel (· = ·) (d.memberText column keys) (d.memberText column keys') := by
  cases d with
  | postgres =>
      have hlength : (keys.map Param.text).length = (keys'.map Param.text).length := by
        simpa using h rfl
      refine (parallel_registerAll hlength).bind_eq fun places => ?_
      exact parallel_pure rfl
  | sqlite =>
      refine (parallel_register _ _).bind_eq fun path => ?_
      exact parallel_pure rfl

namespace Criterion

variable {m : TableMapping} {d : Dialect}

/-- What two criteria look at, taken out of the rows. -/
lemma parallel_targetExpr {t t' : Target} (h : t.SameShape d t') :
    Parallel (· = ·) (targetExpr d t) (targetExpr d t') := by
  cases h with
  | column hname => exact parallel_pure (congrArg Expr.column hname)
  | member hname hkeys =>
      simp only [targetExpr, hname]
      exact Dialect.parallel_memberText hkeys _

/-- As many operands. -/
lemma parallel_registerOperands {table property property' : String} {kind kind' : ColumnKind}
    {os os' : List Operand} (h : os.length = os'.length) :
    Parallel (· = ·) (registerOperands table property kind os)
      (registerOperands table property' kind' os') := by
  induction os generalizing os' with
  | nil =>
      rw [List.eq_nil_of_length_eq_zero h.symm]
      exact parallel_pure rfl
  | cons o rest ih =>
      cases os' with
      | nil => cases h
      | cons o' rest' =>
          refine parallel_lift_register fun place => ?_
          refine (ih (Nat.succ.inj h)).bind_eq fun places => ?_
          exact parallel_pure rfl

/-- The condition that an operator puts on an expression. -/
lemma parallel_conditionOn {table : String} {c c' : Criterion} {kind kind' : ColumnKind}
    (hoperator : c.operator = c'.operator)
    (hitems : c.operator = .oneOf → c.operand.items.length = c'.operand.items.length) (e : Expr) :
    Parallel (· = ·) (conditionOn table c kind e) (conditionOn table c' kind' e) := by
  cases ho : c.operator with
  | oneOf =>
      have hlength := hitems ho
      have hempty : c.operand.items.isEmpty = c'.operand.items.isEmpty := by
        rw [Bool.eq_iff_iff, List.isEmpty_iff_length_eq_zero, List.isEmpty_iff_length_eq_zero,
          hlength]
      simp only [conditionOn, ← hoperator, ho, ← hempty]
      split
      · exact parallel_pure rfl
      · refine (parallel_registerOperands hlength).bind_eq fun places => ?_
        exact parallel_pure rfl
  | compare op =>
      simp only [conditionOn, ← hoperator, ho]
      split
      · exact parallel_throw_left
      · split
        · exact parallel_throw_right
        · exact parallel_lift_register fun place => parallel_pure rfl

/-- The conditions of two criteria of the same shape. -/
lemma parallel_condition {c c' : Criterion} (h : c.SameShape m d c') :
    Parallel (· = ·) (c.condition m d) (c'.condition m d) := by
  obtain ⟨hoperator, ⟨t, t', ht, ht', htarget⟩, hitems⟩ := h
  simp only [condition, ht, ht']
  refine (parallel_targetExpr htarget).bind_eq fun e => ?_
  exact parallel_conditionOn hoperator hitems e

end Criterion

section Filter

variable {m : TableMapping} {d : Dialect} {filter filter' : List Criterion}

/-- The conditions of two filters of the same shape. -/
lemma parallel_filterConditions (h : List.Forall₂ (Criterion.SameShape m d) filter filter') :
    Parallel (· = ·) (filterConditions m d filter) (filterConditions m d filter') := by
  induction h with
  | nil => exact parallel_pure rfl
  | cons hc _ ih =>
      refine (Criterion.parallel_condition hc).bind_eq fun condition => ?_
      refine ih.bind_eq fun conditions => ?_
      exact parallel_pure rfl

end Filter

/-! ### Queries -/

namespace TableMapping

variable {m : TableMapping} {d : Dialect}

/-- The order of a specification is that of the column that it sorts by. -/
lemma order_of_sortColumn? {spec : QuerySpec} {order : List (String × SortOrder)}
    (h : m.order spec = .ok order) :
    order = match m.sortColumn? spec with
      | none => [(m.idColumn, .ascending)]
      | some name =>
        if name = m.idColumn then [(name, spec.sortOrder)]
        else [(name, spec.sortOrder), (m.idColumn, .ascending)] := by
  rw [TableMapping.order] at h
  rw [sortColumn?]
  cases hfield : spec.sortField with
  | none =>
      rw [hfield] at h
      cases h
      rfl
  | some property =>
      rw [hfield] at h
      cases hcolumn : m.plainColumn? property with
      | none =>
          simp only [hcolumn] at h
          cases h
      | some c =>
          simp only [hcolumn] at h
          simp only [Option.bind_some, hcolumn, Option.map_some]
          split at h
          · next hid =>
              cases h
              rw [if_pos hid]
          · next hid =>
              cases h
              rw [if_neg hid]

/-- The queries of two specifications of the same shape. -/
lemma parallel_selectBinding {spec spec' : QuerySpec} (h : spec.SameShape m d spec') :
    Parallel (· = ·) (m.selectBinding d spec) (m.selectBinding d spec') := by
  refine (parallel_filterConditions h.filter).bind_eq fun conditions => ?_
  have horder : Parallel (· = ·) (lift (m.order spec)) (lift (m.order spec')) := by
    refine parallel_lift fun order order' ho ho' => ?_
    rw [order_of_sortColumn? ho, order_of_sortColumn? ho', h.sortColumn, h.sortOrder]
  refine horder.bind_eq fun order => ?_
  refine (parallel_register _ _).bind_eq fun limit => ?_
  refine (parallel_register _ _).bind_eq fun offset => ?_
  exact parallel_pure rfl

end TableMapping

/-- The searches for candidates of two stores with one mapping and two filters of the same shape,
whatever the kinds of their resources are. -/
lemma EntityStore.parallel_unleasedBinding {α β : Type} [StatefulEntity α] [StatefulEntity β]
    {s : EntityStore α} {s' : EntityStore β} {d : Dialect} {filter filter' : List Criterion}
    (hmapping : s.mapping = s'.mapping)
    (hcolumn : StatefulEntity.stateTimestampColumn α = StatefulEntity.stateTimestampColumn β)
    (hfilter : List.Forall₂ (Criterion.SameShape s.mapping d) filter filter')
    (max max' : UInt32) (now now' : Int64) :
    Parallel (· = ·) (s.unleasedBinding d max filter now)
      (s'.unleasedBinding d max' filter' now') := by
  simp only [unleasedBinding, ← hmapping, ← hcolumn]
  refine (parallel_filterConditions hfilter).bind_eq fun conditions => ?_
  have hfree (idExpr : String) :
      Parallel (· = ·) (s.leases.unleased idExpr now) (s'.leases.unleased idExpr now') := by
    refine (parallel_register _ _).bind_eq fun kind => ?_
    refine (parallel_register _ _).bind_eq fun place => ?_
    exact parallel_pure rfl
  refine (hfree _).bind_eq fun free => ?_
  refine (parallel_register _ _).bind_eq fun limit => ?_
  exact parallel_pure rfl

/-! ### Texts -/

/-- Do two statements have the same text and as many parameters? -/
def Statement.SameText (s s' : Statement) : Prop :=
  s.sql = s'.sql ∧ s.params.length = s'.params.length

namespace Select

/-- Queries that are built side by side have the same text. -/
lemma Bound.sameText_of_parallel {x y : Binding Select} (h : Parallel (· = ·) x y) {b b' : Bound}
    (hb : Bound.of x = .ok b) (hb' : Bound.of y = .ok b') :
    b.statement.SameText b'.statement := by
  obtain ⟨hquery, hlength⟩ :=
    h [] [] b.query b'.query b.params b'.params rfl (of_eq_ok.mp hb) (of_eq_ok.mp hb')
  exact ⟨congrArg Select.sql hquery, hlength⟩

/-- The text of a query, of a count and of a search for candidates is the same for all questions of
one shape, whatever the values are that they ask for, the keys of members, offset and limit, the
kind of the resources, the instant and the number of candidates. -/
theorem sameText_of_sameShape (m : TableMapping) (d : Dialect) :
    (∀ spec spec' b b', spec.SameShape m d spec' →
      m.select d spec = .ok b → m.select d spec' = .ok b' →
      b.statement.SameText b'.statement) ∧
    (∀ filter filter' b b', List.Forall₂ (Criterion.SameShape m d) filter filter' →
      m.count d filter = .ok b → m.count d filter' = .ok b' →
      b.statement.SameText b'.statement) ∧
    ∀ {α β : Type} [StatefulEntity α] [StatefulEntity β] (s : EntityStore α) (s' : EntityStore β)
      max max' filter filter' now now' b b', s.mapping = m → s'.mapping = m →
      StatefulEntity.stateTimestampColumn α = StatefulEntity.stateTimestampColumn β →
      List.Forall₂ (Criterion.SameShape m d) filter filter' →
      Bound.of (s.unleasedBinding d max filter now) = .ok b →
      Bound.of (s'.unleasedBinding d max' filter' now') = .ok b' →
      b.statement.SameText b'.statement := by
  refine ⟨?_, ?_, ?_⟩
  · intro spec spec' b b' h hb hb'
    exact Bound.sameText_of_parallel (TableMapping.parallel_selectBinding h) hb hb'
  · intro filter filter' b b' h hb hb'
    refine Bound.sameText_of_parallel ?_ hb hb'
    exact (parallel_filterConditions h).bind_eq fun conditions => parallel_pure rfl
  -- the names of the table and of its columns are those of the mapping, which both stores have
  · intro α β _ _ s s' max max' filter filter' now now' b b' hm hm' hcolumn h hb hb'
    subst hm
    exact Bound.sameText_of_parallel
      (EntityStore.parallel_unleasedBinding hm'.symm hcolumn h max max' now now') hb hb'

/-- Two queries for assets by a member of their properties and a list of ids, and two searches for
negotiations to work on, with values and keys that would mean something in SQL. -/
theorem sameText_of_hostile_values :
    let spec : QuerySpec := { QuerySpec.new with
      filter := [⟨"properties.a.b", .equal, .text "' OR '1' = '1"⟩,
        ⟨"id", .oneOf, .list [.text "$1", .int 2]⟩] }
    let spec' : QuerySpec :=
      { filter := [⟨"properties.$1.'); DROP TABLE harbor_asset; --", .equal, .int 7⟩,
          ⟨"id", .oneOf, .list [.text "", .text "\"?"]⟩]
        sortField := none, sortOrder := .ascending, offset := 3, limit := 4294967295 }
    let mapping := (Entity.schema ContractNegotiation).mapping
    let filter : List Criterion := [⟨"state", .compare .less, .int 1⟩]
    let filter' : List Criterion := [⟨"state", .compare .less, .text "-20"⟩]
    let s : EntityStore ContractNegotiation := ⟨1, 1, by decide⟩
    let s' : EntityStore ContractNegotiation := ⟨9, 5, by decide⟩
    (∃ b b', Asset.schema.mapping.select .postgres spec = .ok b ∧
      Asset.schema.mapping.select .postgres spec' = .ok b' ∧
      b.statement.SameText b'.statement) ∧
    (∃ b b', mapping.count .sqlite filter = .ok b ∧ mapping.count .sqlite filter' = .ok b' ∧
      b.statement.SameText b'.statement) ∧
    ∃ b b', Bound.of (s.unleasedBinding .sqlite 1 filter 0) = .ok b ∧
      Bound.of (s'.unleasedBinding .sqlite 8 filter' (-1)) = .ok b' ∧
      b.statement.SameText b'.statement := by
  intro spec spec' mapping filter filter' s s'
  have hspec : spec.SameShape Asset.schema.mapping .postgres spec' := by
    refine ⟨.cons ⟨rfl, ?_, fun h => by cases h⟩ (.cons ⟨rfl, ?_, fun _ => rfl⟩ .nil), rfl, rfl⟩
    · exact ⟨.member ⟨"properties", "properties", .json⟩ ["a", "b"],
        .member ⟨"properties", "properties", .json⟩ ["$1", "'); DROP TABLE harbor_asset; --"],
        by decide +kernel, by decide +kernel, .member rfl fun _ => rfl⟩
    · exact ⟨.column ⟨"id", "id", .text⟩, .column ⟨"id", "id", .text⟩, by decide +kernel,
        by decide +kernel, .column rfl⟩
  have hfilter : List.Forall₂ (Criterion.SameShape mapping .sqlite) filter filter' := by
    refine .cons ⟨rfl, ?_, fun h => by cases h⟩ .nil
    exact ⟨.column ⟨"state", "state", .integer⟩, .column ⟨"state", "state", .integer⟩,
      by decide +kernel, by decide +kernel, .column rfl⟩
  obtain ⟨b₁, h₁⟩ := Except.exists_of_isOk
    (x := Asset.schema.mapping.select .postgres spec) (by decide +kernel)
  obtain ⟨b₁', h₁'⟩ := Except.exists_of_isOk
    (x := Asset.schema.mapping.select .postgres spec') (by decide +kernel)
  obtain ⟨b₂, h₂⟩ := Except.exists_of_isOk (x := mapping.count .sqlite filter) (by decide +kernel)
  obtain ⟨b₂', h₂'⟩ := Except.exists_of_isOk
    (x := mapping.count .sqlite filter') (by decide +kernel)
  obtain ⟨b₃, h₃⟩ := Except.exists_of_isOk
    (x := Bound.of (s.unleasedBinding .sqlite 1 filter 0)) (by decide +kernel)
  obtain ⟨b₃', h₃'⟩ := Except.exists_of_isOk
    (x := Bound.of (s'.unleasedBinding .sqlite 8 filter' (-1))) (by decide +kernel)
  exact ⟨⟨b₁, b₁', h₁, h₁', (sameText_of_sameShape _ _).1 spec spec' b₁ b₁' hspec h₁ h₁'⟩,
    ⟨b₂, b₂', h₂, h₂', (sameText_of_sameShape _ _).2.1 filter filter' b₂ b₂' hfilter h₂ h₂'⟩,
    b₃, b₃', h₃, h₃', (sameText_of_sameShape _ _).2.2 s s' 1 8 filter filter' 0 (-1) b₃ b₃' rfl rfl
      rfl hfilter h₃ h₃'⟩

end Select

end LeasedStore
