/-
Both dialects say the same.

What a filter says is independent of the dialect: of each criterion, what it looks at, its operator
and its operands as parameters.  A dialect puts it into words, and it does so behind any parameters:
the place of a member takes as many numbers as the dialect wants, and everything behind it moves on.

* `Phrase`, `Criterion.phrase`: what a criterion says, or what is wrong with it;
* `Target.expr`, `Phrase.condition`, `Phrase.conditionsFrom`: phrases in the words of a dialect,
  behind so many parameters, and `Phrase.paramsOf`, the parameters that they add to them;
* `Binding.Yields`, `yields_filterConditions`: this is what the conditions of a filter are;
* `Phrase.leadNumbers`, `Phrase.without_leadNumbers`: the parameters without those that lead to
  members;
* `TableMapping.IsWorded`, `TableMapping.isWorded_or_fails`: a filter, its count and its queries in
  both dialects.
-/
import Mathlib
import LeasedStore.Proofs.Sql.Numbering

namespace LeasedStore

/-! ### What criteria say -/

/-- What a criterion says, in no dialect. -/
inductive Phrase where
  | compare (t : Target) (op : Comparison) (v : Param)
  | oneOf (t : Target) (vs : List Param)
  /-- There is nothing that it could be. -/
  | never (t : Target)
  deriving DecidableEq

/-- What a criterion says, or what is wrong with it. -/
def Criterion.phrase (m : TableMapping) (c : Criterion) : Except QueryError Phrase :=
  match m.target? c.property with
  | none => .error (.unknownProperty c.property m.table)
  | some t =>
    match c.operator with
    | .oneOf =>
      if c.operand.items.isEmpty then .ok (.never t)
      else (c.operand.items.mapM (coerce m.table c.property t.kind)).map (.oneOf t)
    | .compare op =>
      if op = .like ∧ t.kind ≠ .text then .error (.likeUnsupported c.property)
      else (coerce m.table c.property t.kind c.operand).map (.compare t op)

/-- The places of so many parameters behind so many others. -/
def Placeholder.behind (n count : Nat) : List Placeholder := (List.range' (n + 1) count).map mk

/-- The keys of the member that a criterion looks at; none if it looks at a column. -/
def Target.keys : Target → List String
  | column _ => []
  | member _ keys => keys

/-- What a criterion looks at in the words of a dialect, behind so many parameters. -/
def Target.expr (d : Dialect) (n : Nat) : Target → Expr
  | column c => .column c.name
  | member c keys =>
    match d with
    | .postgres => .keysText c.name (Placeholder.behind n keys.length)
    | .sqlite => .pathText c.name ⟨n + 1⟩

namespace Phrase

/-- What the criterion looks at. -/
def target : Phrase → Target
  | compare t _ _ => t
  | oneOf t _ => t
  | never t => t

/-- The parameters that the criterion compares with. -/
def values : Phrase → List Param
  | compare _ _ v => [v]
  | oneOf _ vs => vs
  | never _ => []

/-- The parameters of a phrase: those that lead to what it is about, and its values. -/
def params (d : Dialect) (p : Phrase) : List Param := p.target.params d ++ p.values

/-- A phrase as a condition, behind so many parameters. -/
def condition (d : Dialect) (n : Nat) : Phrase → Condition
  | compare t op _ => .compare (t.expr d n) op ⟨n + (t.params d).length + 1⟩
  | oneOf t vs => .oneOf (t.expr d n) (Placeholder.behind (n + (t.params d).length) vs.length)
  | never _ => .never

/-- The parameters of some phrases. -/
def paramsOf (d : Dialect) (ps : List Phrase) : List Param := ps.flatMap (params d)

/-- Phrases as conditions, each behind the parameters of those before it. -/
def conditionsFrom (d : Dialect) : Nat → List Phrase → List Condition
  | _, [] => []
  | n, p :: rest => p.condition d n :: conditionsFrom d (n + (p.params d).length) rest

/-- By how much the numbers behind a phrase are higher where every key is a parameter than where the
path is one. -/
def shift (p : Phrase) : Nat := p.target.keys.length - 1

end Phrase

/-! ### Building -/

namespace Binding

variable {α β : Type} {x : Binding α} {f : α → Binding β} {params : List Param}

/-- Does building come to a result, with some parameters behind those that there are, or to an
error? -/
def Yields (x : Binding α) (params : List Param) : Except QueryError (α × List Param) → Prop
  | .ok (a, added) => x.runOn params = (.ok a, params ++ added)
  | .error e => (x.runOn params).1 = .error e

lemma yields_pure (a : α) : (pure a : Binding α).Yields params (.ok (a, [])) := by
  rw [Yields, List.append_nil]
  rfl

lemma yields_throw (e : QueryError) : (throw e : Binding α).Yields params (.error e) := rfl

lemma yields_register (v : Param) (params : List Param) :
    (register v).Yields params (.ok (⟨params.length + 1⟩, [v])) := rfl

lemma lift_ok_bind (a : α) (f : α → Binding β) : (lift (.ok a) >>= f) = f a := rfl

lemma yields_lift_error_bind (e : QueryError) (f : α → Binding β) :
    (lift (.error e) >>= f).Yields params (.error e) := rfl

/-- Building in two parts fails if the first part does. -/
lemma Yields.bind_of_error {e : QueryError} (h : x.Yields params (.error e)) (f : α → Binding β) :
    (x >>= f).Yields params (.error e) := by
  rw [Yields, runOn_bind]
  rw [Yields] at h
  rcases hx : x.runOn params with ⟨e' | a, params'⟩ <;> rw [hx] at h <;> cases h
  rfl

variable {a : α} {added more : List Param}

lemma Yields.bind_ok {y : β} (h : x.Yields params (.ok (a, added)))
    (hf : (f a).Yields (params ++ added) (.ok (y, more))) :
    (x >>= f).Yields params (.ok (y, added ++ more)) := by
  rw [Yields, ← List.append_assoc]
  exact bind_eq_ok.mpr ⟨a, params ++ added, h, hf⟩

lemma Yields.bind_pure (h : x.Yields params (.ok (a, added))) (f : α → β) :
    (x >>= fun a => pure (f a)).Yields params (.ok (f a, added)) := by
  rw [← List.append_nil added]
  exact h.bind_ok (yields_pure (f a))

lemma Yields.bind_error {e : QueryError} (h : x.Yields params (.ok (a, added)))
    (hf : (f a).Yields (params ++ added) (.error e)) : (x >>= f).Yields params (.error e) := by
  have hx : x.runOn params = (.ok a, params ++ added) := h
  rw [Yields, runOn_bind, hx]
  exact hf

/-- Two parameters are registered one behind the other. -/
lemma yields_register_pair (v w : Param) (f : Placeholder → Placeholder → α) :
    (register v >>= fun p => register w >>= fun q => pure (f p q)).Yields params
      (.ok (f ⟨params.length + 1⟩ ⟨params.length + 2⟩, [v, w])) := by
  have hsecond := (yields_register w (params ++ [v])).bind_pure (f ⟨params.length + 1⟩)
  rw [List.length_append] at hsecond
  exact (yields_register v params).bind_ok hsecond

/-- Parameters are registered one behind the other. -/
lemma yields_registerAll (vs params : List Param) :
    (registerAll vs).Yields params (.ok (Placeholder.behind params.length vs.length, vs)) := by
  obtain ⟨ps, params', h⟩ := succeeds_registerAll vs params
  obtain ⟨rfl, hnumbers⟩ := registerAll_eq_ok h
  rw [Yields, h, Placeholder.behind, ← hnumbers, List.map_map]
  exact Prod.ext (congrArg Except.ok (List.map_id ps).symm) rfl

end Binding

lemma Placeholder.behind_succ (n count : Nat) :
    behind n (count + 1) = ⟨n + 1⟩ :: behind (n + 1) count := by
  rw [behind, List.range'_succ]
  rfl

namespace Criterion

variable {m : TableMapping} {params : List Param}

/-- What a criterion looks at, in the words of a dialect. -/
lemma yields_targetExpr (d : Dialect) (t : Target) (params : List Param) :
    (targetExpr d t).Yields params (.ok (t.expr d params.length, t.params d)) := by
  cases t with
  | column c => exact Binding.yields_pure _
  | member c keys =>
      cases d with
      | postgres =>
          have hkeys := Binding.yields_registerAll (keys.map Param.text) params
          rw [List.length_map] at hkeys
          exact hkeys.bind_pure (Expr.keysText c.name)
      | sqlite => rfl

/-- Operands are coerced and registered one behind the other, up to the first that cannot be. -/
lemma yields_registerOperands (table property : String) (kind : ColumnKind) (os : List Operand)
    (params : List Param) :
    (registerOperands table property kind os).Yields params
      ((os.mapM (coerce table property kind)).map fun vs =>
        (Placeholder.behind params.length vs.length, vs)) := by
  induction os generalizing params with
  | nil => exact Binding.yields_pure _
  | cons o rest ih =>
      rw [List.mapM_cons, registerOperands]
      cases coerce table property kind o with
      | error e => exact Binding.yields_lift_error_bind e _
      | ok v =>
          rw [Binding.lift_ok_bind]
          -- the places of the rest begin behind that of the first operand
          have hplace := Binding.yields_register v params
          have hrest := ih (params ++ [v])
          cases hvs : rest.mapM (coerce table property kind) with
          | error e =>
              rw [hvs] at hrest
              exact hplace.bind_error (hrest.bind_of_error _)
          | ok vs =>
              rw [hvs, List.length_append] at hrest
              change Binding.Yields _ params
                (.ok (Placeholder.behind params.length (vs.length + 1), [v] ++ vs))
              rw [Placeholder.behind_succ]
              exact hplace.bind_ok (hrest.bind_pure (⟨params.length + 1⟩ :: ·))

/-- The operands that a property may be one of are registered behind what leads to it. -/
lemma yields_conditionOn_of_items (table : String) (kind : ColumnKind) {c : Criterion}
    (ho : c.operator = .oneOf) (hitems : c.operand.items ≠ []) (e : Expr) (params : List Param) :
    (conditionOn table c kind e).Yields params
      ((c.operand.items.mapM (coerce table c.property kind)).map fun vs =>
        (.oneOf e (Placeholder.behind params.length vs.length), vs)) := by
  rw [conditionOn_of_items ho hitems]
  have hplaces := yields_registerOperands table c.property kind c.operand.items params
  cases hvs : c.operand.items.mapM (coerce table c.property kind) with
  | error _ =>
      rw [hvs] at hplaces
      exact hplaces.bind_of_error _
  | ok vs =>
      rw [hvs] at hplaces
      exact hplaces.bind_pure (Condition.oneOf e)

/-- The operand that a property is compared with is registered behind what leads to it. -/
lemma yields_conditionOn_of_compare (table : String) {kind : ColumnKind} {c : Criterion}
    {op : Comparison} (ho : c.operator = .compare op) (hlike : op = .like → kind = .text) (e : Expr)
    (params : List Param) :
    (conditionOn table c kind e).Yields params
      ((coerce table c.property kind c.operand).map fun v =>
        (.compare e op ⟨params.length + 1⟩, [v])) := by
  rw [conditionOn_of_compare ho hlike]
  cases coerce table c.property kind c.operand with
  | error err => exact Binding.yields_lift_error_bind err _
  | ok v =>
      rw [Binding.lift_ok_bind]
      exact (Binding.yields_register v params).bind_pure (Condition.compare e op)

/-- A criterion says in every dialect what it says, behind whatever parameters. -/
theorem yields_condition (m : TableMapping) (d : Dialect) (c : Criterion) (params : List Param) :
    (c.condition m d).Yields params
      ((c.phrase m).map fun p => (p.condition d params.length, p.params d)) := by
  rw [condition, phrase]
  cases m.target? c.property with
  | none => exact Binding.yields_throw _
  | some t =>
      dsimp only
      have hexpr := yields_targetExpr d t params
      cases ho : c.operator with
      | oneOf =>
          dsimp only
          by_cases hempty : c.operand.items.isEmpty = true
          · have hnever : (conditionOn m.table c t.kind (t.expr d params.length)).Yields
                (params ++ t.params d) (.ok (.never, [])) := by
              rw [conditionOn_of_no_items ho (List.isEmpty_iff.mp hempty)]
              exact Binding.yields_pure _
            rw [if_pos hempty]
            exact hexpr.bind_ok hnever
          · have hitems := yields_conditionOn_of_items m.table t.kind ho
              (fun h => hempty (List.isEmpty_iff.mpr h)) (t.expr d params.length)
              (params ++ t.params d)
            rw [if_neg hempty]
            cases hvs : c.operand.items.mapM (coerce m.table c.property t.kind) with
            | error e =>
                rw [hvs] at hitems
                exact hexpr.bind_error hitems
            | ok vs =>
                rw [hvs, List.length_append] at hitems
                exact hexpr.bind_ok hitems
      | compare op =>
          dsimp only
          by_cases hlike : op = .like ∧ t.kind ≠ .text
          · obtain ⟨rfl, hkind⟩ := hlike
            rw [if_pos ⟨rfl, hkind⟩]
            refine hexpr.bind_error ?_
            rw [conditionOn_of_like ho hkind]
            exact Binding.yields_throw _
          · have hkind : op = .like → t.kind = .text := fun hop =>
              by_contra fun hkind => hlike ⟨hop, hkind⟩
            have hcompare := yields_conditionOn_of_compare m.table ho hkind
              (t.expr d params.length) (params ++ t.params d)
            rw [if_neg hlike]
            cases hv : coerce m.table c.property t.kind c.operand with
            | error e =>
                rw [hv] at hcompare
                exact hexpr.bind_error hcompare
            | ok v =>
                rw [hv, List.length_append] at hcompare
                exact hexpr.bind_ok hcompare

end Criterion

open Phrase in
/-- The conditions of a filter are its phrases in the words of a dialect, behind whatever
parameters; if there is something wrong with it, it is so in every dialect. -/
theorem yields_filterConditions (m : TableMapping) (d : Dialect) (filter : List Criterion)
    (params : List Param) :
    (filterConditions m d filter).Yields params
      ((filter.mapM (Criterion.phrase m)).map fun ps =>
        (conditionsFrom d params.length ps, paramsOf d ps)) := by
  induction filter generalizing params with
  | nil => exact Binding.yields_pure _
  | cons c rest ih =>
      rw [List.mapM_cons, filterConditions]
      have hc := Criterion.yields_condition m d c params
      cases hp : c.phrase m with
      | error e =>
          rw [hp] at hc
          exact hc.bind_of_error _
      | ok p =>
          rw [hp] at hc
          have hrest := ih (params ++ p.params d)
          cases hps : rest.mapM (Criterion.phrase m) with
          | error e =>
              rw [hps] at hrest
              exact hc.bind_error (hrest.bind_of_error _)
          | ok ps =>
              rw [hps, List.length_append] at hrest
              exact hc.bind_ok (hrest.bind_pure (p.condition d params.length :: ·))

/-! ### Places and what leads to members -/

/-- Parameters behind so many others, those of some numbers left out. -/
def Param.without (numbers : List Nat) : Nat → List Param → List Param
  | _, [] => []
  | n, v :: rest =>
    if n + 1 ∈ numbers then without numbers (n + 1) rest else v :: without numbers (n + 1) rest

namespace Param

variable {numbers numbers' : List Nat} {n : Nat} {xs ys : List Param}

/-- Parameters behind others have the numbers that follow. -/
lemma without_append : without numbers n (xs ++ ys) =
    without numbers n xs ++ without numbers (n + xs.length) ys := by
  induction xs generalizing n with
  | nil => rfl
  | cons v rest ih =>
      have hlength : n + 1 + rest.length = n + (v :: rest).length := by
        rw [List.length_cons]
        omega
      rw [List.cons_append, without, without, ih, hlength]
      split <;> rfl

/-- Only the numbers of the parameters count. -/
lemma without_congr (h : ∀ i, n < i → i ≤ n + xs.length → (i ∈ numbers ↔ i ∈ numbers')) :
    without numbers n xs = without numbers' n xs := by
  induction xs generalizing n with
  | nil => rfl
  | cons v rest ih =>
      rw [List.length_cons] at h
      have hrest := ih (n := n + 1) fun i hlt hle => h i (by omega) (by omega)
      rw [without, without, hrest]
      simp only [h (n + 1) (by omega) (by omega)]

/-- No parameter is left out if none has one of the numbers. -/
lemma without_of_disjoint (h : ∀ i ∈ numbers, i ≤ n ∨ n + xs.length < i) :
    without numbers n xs = xs := by
  induction xs generalizing n with
  | nil => rfl
  | cons v rest ih =>
      rw [List.length_cons] at h
      have hnot : n + 1 ∉ numbers := fun hmem => by
        have := h _ hmem
        omega
      rw [without, if_neg hnot, ih fun i hi => by have := h i hi; omega]

/-- All of them are left out if all have. -/
lemma without_of_subset (h : ∀ i, n < i → i ≤ n + xs.length → i ∈ numbers) :
    without numbers n xs = [] := by
  induction xs generalizing n with
  | nil => rfl
  | cons v rest ih =>
      rw [List.length_cons] at h
      rw [without, if_pos (h _ (by omega) (by omega)),
        ih fun i hlt hle => h i (by omega) (by omega)]

end Param

namespace Phrase

variable {d : Dialect} {n : Nat} {p : Phrase} {ps before after : List Phrase}

@[simp]
lemma paramsOf_cons (d : Dialect) (p : Phrase) (ps : List Phrase) :
    paramsOf d (p :: ps) = p.params d ++ paramsOf d ps := rfl

@[simp]
lemma paramsOf_append (d : Dialect) (before after : List Phrase) :
    paramsOf d (before ++ after) = paramsOf d before ++ paramsOf d after := List.flatMap_append

/-- Phrases stand behind those before them. -/
lemma conditionsFrom_append : conditionsFrom d n (before ++ after) =
    conditionsFrom d n before ++ conditionsFrom d (n + (paramsOf d before).length) after := by
  induction before generalizing n with
  | nil => rfl
  | cons p rest ih =>
      rw [List.cons_append, conditionsFrom, conditionsFrom, ih, paramsOf_cons, List.length_append,
        Nat.add_assoc]
      rfl

/-- The numbers of the parameters that lead to members. -/
def leadNumbers (d : Dialect) : Nat → List Phrase → List Nat
  | _, [] => []
  | n, p :: rest =>
    List.range' (n + 1) (p.target.params d).length ++ leadNumbers d (n + (p.params d).length) rest

/-- They are numbers of the parameters of the phrases. -/
lemma lt_and_le_of_mem_leadNumbers {i : Nat} (h : i ∈ leadNumbers d n ps) :
    n < i ∧ i ≤ n + (paramsOf d ps).length := by
  induction ps generalizing n with
  | nil => cases h
  | cons p rest ih =>
      have hparams : (p.params d).length = (p.target.params d).length + p.values.length :=
        List.length_append
      rw [paramsOf_cons, List.length_append]
      rcases List.mem_append.mp h with h | h
      · have := List.mem_range'_1.mp h
        omega
      · have := ih h
        omega

/-- Without them, only the values are left. -/
lemma without_leadNumbers (d : Dialect) (n : Nat) (ps : List Phrase) :
    Param.without (leadNumbers d n ps) n (paramsOf d ps) = ps.flatMap values := by
  induction ps generalizing n with
  | nil => rfl
  | cons p rest ih =>
      have hparams : (p.params d).length = (p.target.params d).length + p.values.length :=
        List.length_append
      have hmem (i : Nat) : i ∈ leadNumbers d n (p :: rest) ↔
          (n < i ∧ i ≤ n + (p.target.params d).length) ∨
            i ∈ leadNumbers d (n + (p.params d).length) rest := by
        rw [leadNumbers, List.mem_append, List.mem_range'_1]
        have : n + 1 ≤ i ∧ i < n + 1 + (p.target.params d).length ↔
            n < i ∧ i ≤ n + (p.target.params d).length := by omega
        rw [this]
      -- the segments of the phrase and of those behind it do not overlap
      have hleads : Param.without (leadNumbers d n (p :: rest)) n (p.target.params d) = [] :=
        Param.without_of_subset fun i hlt hle => (hmem i).mpr (.inl ⟨hlt, hle⟩)
      have hvalues : Param.without (leadNumbers d n (p :: rest)) (n + (p.target.params d).length)
          p.values = p.values := by
        refine Param.without_of_disjoint fun i hi => ?_
        rcases (hmem i).mp hi with ⟨-, hle⟩ | hi
        · exact .inl hle
        · have := lt_and_le_of_mem_leadNumbers hi
          omega
      have hrest : Param.without (leadNumbers d n (p :: rest)) (n + (p.params d).length)
          (paramsOf d rest) = rest.flatMap values := by
        rw [← ih (n + (p.params d).length)]
        refine Param.without_congr fun i hlt _ => ?_
        rw [hmem]
        exact or_iff_right fun h => by omega
      rw [paramsOf_cons, Param.without_append, hrest, params, Param.without_append, hleads, hvalues,
        List.nil_append, List.flatMap_cons]

/-- So it is behind other parameters, and with more of them behind. -/
lemma without_leadNumbers_append (d : Dialect) (start last : List Param) (ps : List Phrase) :
    Param.without (leadNumbers d start.length ps) 0 (start ++ paramsOf d ps ++ last) =
      start ++ ps.flatMap values ++ last := by
  have hstart : Param.without (leadNumbers d start.length ps) 0 start = start := by
    refine Param.without_of_disjoint fun i hi => .inr ?_
    have := lt_and_le_of_mem_leadNumbers hi
    omega
  have hlast : Param.without (leadNumbers d start.length ps) (start ++ paramsOf d ps).length last =
      last := by
    refine Param.without_of_disjoint fun i hi => .inl ?_
    rw [List.length_append]
    exact (lt_and_le_of_mem_leadNumbers hi).2
  rw [Param.without_append, Param.without_append, hstart, Nat.zero_add, Nat.zero_add, hlast,
    without_leadNumbers]

end Phrase

/-! ### What phrases are about -/

/-- The steps along keys: all but the last go on in the document, and the last one takes the text
out. -/
lemma Expr.stepsSql_concat (keys : List Placeholder) (last : Placeholder) :
    stepsSql (keys ++ [last]) =
      String.join (keys.map fun key => " -> " ++ key.sql) ++ " ->> " ++ last.sql := by
  induction keys with
  | nil => rfl
  | cons key rest ih =>
      have hstep : stepsSql (key :: (rest ++ [last])) =
          " -> " ++ key.sql ++ stepsSql (rest ++ [last]) := by
        cases rest <;> rfl
      rw [List.cons_append, hstep, ih, List.map_cons, String.join_cons]
      simp only [String.append_assoc]

lemma Placeholder.behind_eq_concat (n : Nat) {count : Nat} (h : 0 < count) :
    behind n count = behind n (count - 1) ++ [⟨n + count⟩] := by
  obtain ⟨k, rfl⟩ : ∃ k, count = k + 1 := ⟨count - 1, by omega⟩
  rw [behind, List.range'_1_concat, List.map_append, Nat.add_sub_cancel, Nat.add_right_comm]
  rfl

@[simp]
lemma Placeholder.map_number_behind (n count : Nat) :
    (behind n count).map number = List.range' (n + 1) count := by
  rw [behind, List.map_map]
  exact List.map_id _

/-- The numbers of the places of what a criterion looks at. -/
lemma Target.map_number_expr (d : Dialect) (t : Target) (n : Nat) :
    (t.expr d n).placeholders.map Placeholder.number =
      List.range' (n + 1) (t.params d).length := by
  cases t with
  | column c => rfl
  | member c keys =>
      cases d with
      | postgres => simp [expr, Expr.placeholders, params]
      | sqlite => rfl

/-- A member in the words of the dialect that binds its keys. -/
lemma Target.sql_expr_postgres (c : Column) {keys : List String} (h : keys ≠ []) (n : Nat) :
    ((Target.member c keys).expr .postgres n).sql = "(" ++ c.name ++ "::json" ++
      String.join ((Placeholder.behind n (keys.length - 1)).map fun key => " -> " ++ key.sql) ++
        " ->> " ++ (⟨n + keys.length⟩ : Placeholder).sql ++ ")" := by
  have hsteps := Expr.stepsSql_concat (Placeholder.behind n (keys.length - 1)) ⟨n + keys.length⟩
  rw [← Placeholder.behind_eq_concat n (List.length_pos_iff.mpr h)] at hsteps
  have hsql : ((Target.member c keys).expr .postgres n).sql =
      "(" ++ c.name ++ "::json" ++ Expr.stepsSql (Placeholder.behind n keys.length) ++ ")" := rfl
  rw [hsql, hsteps]
  simp only [String.append_assoc]

namespace Phrase

/-- Can the property be something? -/
def IsPossible : Phrase → Prop
  | never _ => False
  | _ => True

/-- The numbers of the places in a condition are those of all parameters of its phrase. -/
lemma map_number_condition (d : Dialect) {p : Phrase} (h : p.IsPossible) (start : List Param) :
    (p.condition d start.length).placeholders.map Placeholder.number =
      List.range' (start.length + 1) (p.params d).length := by
  cases p with
  | never t => exact h.elim
  | compare t op v =>
      have hvalue : [start.length + (t.params d).length + 1] =
          List.range' ((start ++ t.params d).length + 1) [v].length := by
        rw [List.length_append]
        rfl
      exact Criterion.map_number_append (t.map_number_expr d _) hvalue
  | oneOf t vs =>
      have hvalues : (Placeholder.behind (start.length + (t.params d).length) vs.length).map
          Placeholder.number = List.range' ((start ++ t.params d).length + 1) vs.length := by
        rw [Placeholder.map_number_behind, List.length_append]
      exact Criterion.map_number_append (t.map_number_expr d _) hvalues

lemma map_param?_condition (d : Dialect) {p : Phrase} (h : p.IsPossible) (start more : List Param) :
    (p.condition d start.length).placeholders.map (·.param? (start ++ p.params d ++ more)) =
      (p.params d).map some := by
  rw [← map_paramAt?_range' start (p.params d) more, ← map_number_condition d h, List.map_map]
  rfl

end Phrase

namespace Criterion

variable {m : TableMapping} {c : Criterion} {p : Phrase}

/-- A phrase is about what its criterion looks at. -/
lemma target_of_phrase (h : c.phrase m = .ok p) : m.target? c.property = some p.target := by
  rw [phrase] at h
  split at h
  · cases h
  · next t ht =>
    rw [ht]
    split at h
    · split at h
      · cases h
        rfl
      · obtain ⟨vs, -, rfl⟩ := Except.map_eq_ok.mp h
        rfl
    · split at h
      · cases h
      · obtain ⟨v, -, rfl⟩ := Except.map_eq_ok.mp h
        rfl

end Criterion

namespace TableMapping

variable {m : TableMapping} {property : String} {t : Target}

/-- There is a key on the way to a member. -/
lemma keys_ne_nil {c : Column} {keys : List String}
    (h : m.target? property = some (.member c keys)) : keys ≠ [] := by
  rw [target?] at h
  split at h
  · cases h
  · obtain ⟨document, column, keys, -, -, hkeys, heq⟩ := member?_eq_some_iff.mp h
    cases heq
    exact (memberKeys?_eq_some_iff.mp hkeys).1

/-- Where every key is a parameter there are as many more as there are further keys. -/
lemma length_params_postgres (h : m.target? property = some t) :
    (t.params .postgres).length = (t.params .sqlite).length + (t.keys.length - 1) := by
  cases t with
  | column c => rfl
  | member c keys =>
      have hpos := List.length_pos_iff.mpr (keys_ne_nil h)
      simp only [Target.params, Target.keys, List.length_map, List.length_singleton]
      omega

end TableMapping

/-! ### Filters and queries in both dialects -/

/-- A query that is built behind no parameters has those that it adds. -/
lemma Select.Bound.of_yields {x : Binding Select} {r : Except QueryError (Select × List Param)}
    (h : x.Yields [] r) : Select.Bound.of x = r.map fun y => ⟨y.1, y.2⟩ := by
  rw [Select.Bound.of, Binding.bound]
  cases r with
  | error e =>
      rw [Binding.Yields] at h
      rcases hx : x.runOn [] with ⟨e' | query, params⟩ <;> rw [hx] at h <;> cases h
      rfl
  | ok y =>
      have hx : x.runOn [] = (.ok y.1, y.2) := h
      rw [hx]

/-- Are a filter, behind some parameters, its count and its queries the phrases of the filter in the
words of either dialect? -/
structure TableMapping.IsWorded (m : TableMapping) (filter : List Criterion) (start : List Param)
    (ps : List Phrase) : Prop where
  phrases : filter.mapM (Criterion.phrase m) = .ok ps
  conditions (d : Dialect) : (filterConditions m d filter).runOn start =
    (.ok (Phrase.conditionsFrom d start.length ps), start ++ Phrase.paramsOf d ps)
  count (d : Dialect) : m.count d filter =
    .ok ⟨⟨.count, m.table, Phrase.conditionsFrom d 0 ps, [], none, none⟩, Phrase.paramsOf d ps⟩
  select (d : Dialect) (spec : QuerySpec) (hfilter : spec.filter = filter) :
    m.select d spec = (m.order spec).map fun order =>
      ⟨⟨.columns m.columnNames, m.table, Phrase.conditionsFrom d 0 ps, order,
          some ⟨(Phrase.paramsOf d ps).length + 1⟩, some ⟨(Phrase.paramsOf d ps).length + 2⟩⟩,
        Phrase.paramsOf d ps ++ [countParam spec.limit, countParam spec.offset]⟩
  /-- Each phrase is a condition behind those before it, whose places stand for its parameters. -/
  places (d : Dialect) (before : List Phrase) (p : Phrase) (after : List Phrase)
    (hps : ps = before ++ p :: after) (hp : p.IsPossible) (last : List Param) :
    ∃ condition ∈ Phrase.conditionsFrom d start.length ps,
      condition = p.condition d (start.length + (Phrase.paramsOf d before).length) ∧
      condition.placeholders.map (·.param? (start ++ Phrase.paramsOf d ps ++ last)) =
        (p.target.params d ++ p.values).map some
  /-- A member is taken out along its keys, one by one, or along a path of them. -/
  members (p : Phrase) (hp : p ∈ ps) (c : Column) (keys : List String)
    (ht : p.target = .member c keys) (n : Nat) : keys ≠ [] ∧
      (p.target.expr .postgres n).sql = "(" ++ c.name ++ "::json" ++
        String.join ((Placeholder.behind n (keys.length - 1)).map fun key => " -> " ++ key.sql) ++
          " ->> " ++ (⟨n + keys.length⟩ : Placeholder).sql ++ ")" ∧
      (p.target.expr .sqlite n).sql =
        "CAST(json_extract(" ++ c.name ++ ", " ++ (⟨n + 1⟩ : Placeholder).sql ++ ") AS TEXT)"
  /-- Behind a member the numbers are higher by the keys that it has beside the first one. -/
  shift (before after : List Phrase) (hps : ps = before ++ after) :
    (Phrase.paramsOf .postgres before).length =
      (Phrase.paramsOf .sqlite before).length + (before.map Phrase.shift).sum
  values (d : Dialect) (last : List Param) :
    Param.without (Phrase.leadNumbers d start.length ps) 0 (start ++ Phrase.paramsOf d ps ++ last) =
      start ++ ps.flatMap Phrase.values ++ last
  columns (hcolumns : ∀ c ∈ filter, ∀ column keys,
      m.target? c.property ≠ some (.member column keys)) (d d' : Dialect) :
    (filterConditions m d filter).runOn start = (filterConditions m d' filter).runOn start ∧
      m.count d filter = m.count d' filter ∧
      ∀ spec : QuerySpec, spec.filter = filter → m.select d spec = m.select d' spec

namespace TableMapping

variable {m : TableMapping} {filter : List Criterion} {ps : List Phrase}

lemma exists_target_of_phrases (h : filter.mapM (Criterion.phrase m) = .ok ps) {p : Phrase}
    (hp : p ∈ ps) : ∃ c ∈ filter, m.target? c.property = some p.target := by
  obtain ⟨c, hc, hphrase⟩ := Except.exists_of_mem_mapM h hp
  exact ⟨c, hc, Criterion.target_of_phrase hphrase⟩

/-- The numbers behind phrases differ by what their keys add. -/
lemma length_paramsOf_postgres (h : ∀ p ∈ ps, ∃ property, m.target? property = some p.target) :
    (Phrase.paramsOf .postgres ps).length =
      (Phrase.paramsOf .sqlite ps).length + (ps.map Phrase.shift).sum := by
  induction ps with
  | nil => rfl
  | cons p rest ih =>
      obtain ⟨⟨property, hp⟩, hrest⟩ := List.forall_mem_cons.mp h
      have hhead := length_params_postgres hp
      rw [Phrase.paramsOf_cons, Phrase.paramsOf_cons, List.length_append, List.length_append,
        List.map_cons, List.sum_cons, ih hrest, Phrase.params, Phrase.params, List.length_append,
        List.length_append, hhead, Phrase.shift]
      omega

/-- The query of a filter whose phrases are known. -/
lemma select_of_phrases (h : filter.mapM (Criterion.phrase m) = .ok ps) (d : Dialect)
    {spec : QuerySpec} (hfilter : spec.filter = filter) :
    m.select d spec = (m.order spec).map fun order =>
      ⟨⟨.columns m.columnNames, m.table, Phrase.conditionsFrom d 0 ps, order,
          some ⟨(Phrase.paramsOf d ps).length + 1⟩, some ⟨(Phrase.paramsOf d ps).length + 2⟩⟩,
        Phrase.paramsOf d ps ++ [countParam spec.limit, countParam spec.offset]⟩ := by
  have hconditions := yields_filterConditions m d spec.filter []
  rw [hfilter, h] at hconditions
  rw [TableMapping.select, selectBinding, hfilter]
  cases ho : m.order spec with
  | error e => exact Select.Bound.of_yields (hconditions.bind_error
      (Binding.yields_lift_error_bind e _))
  | ok order =>
      exact Select.Bound.of_yields (hconditions.bind_ok (Binding.yields_register_pair _ _
        fun limit offset =>
          (⟨.columns m.columnNames, m.table, _, order, some limit, some offset⟩ : Select)))

/-- The count of a filter whose phrases are known. -/
lemma count_of_phrases (h : filter.mapM (Criterion.phrase m) = .ok ps) (d : Dialect) :
    m.count d filter =
      .ok ⟨⟨.count, m.table, Phrase.conditionsFrom d 0 ps, [], none, none⟩,
        Phrase.paramsOf d ps⟩ := by
  have hconditions := yields_filterConditions m d filter []
  rw [h] at hconditions
  exact Select.Bound.of_yields (hconditions.bind_pure
    fun conditions => (⟨.count, m.table, conditions, [], none, none⟩ : Select))

/-- A filter that has an error has it in every dialect, and so have its count and its queries. -/
lemma fails_of_phrases {e : QueryError} (h : filter.mapM (Criterion.phrase m) = .error e)
    (d : Dialect) (start : List Param) :
    ((filterConditions m d filter).runOn start).1 = .error e ∧ m.count d filter = .error e ∧
      ∀ spec : QuerySpec, spec.filter = filter → m.select d spec = .error e := by
  have hconditions (start : List Param) := yields_filterConditions m d filter start
  simp only [h] at hconditions
  refine ⟨hconditions start, Select.Bound.of_yields ((hconditions []).bind_of_error _), ?_⟩
  rintro spec rfl
  exact Select.Bound.of_yields ((hconditions []).bind_of_error _)

/-- Where no criterion looks into a document, every dialect uses the same words. -/
lemma eq_of_columns (h : filter.mapM (Criterion.phrase m) = .ok ps)
    (hcolumns : ∀ c ∈ filter, ∀ column keys, m.target? c.property ≠ some (.member column keys))
    (d d' : Dialect) : (∀ n, Phrase.conditionsFrom d n ps = Phrase.conditionsFrom d' n ps) ∧
      Phrase.paramsOf d ps = Phrase.paramsOf d' ps := by
  have hphrases : ∀ p ∈ ps, ∃ column, p.target = .column column := by
    intro p hp
    obtain ⟨c, hc, ht⟩ := exists_target_of_phrases h hp
    cases htarget : p.target with
    | column column => exact ⟨column, rfl⟩
    | member column keys => exact absurd (htarget ▸ ht) (hcolumns c hc column keys)
  -- only the targets of the phrases matter from here on
  clear h hcolumns
  induction ps with
  | nil => exact ⟨fun _ => rfl, rfl⟩
  | cons p rest ih =>
      obtain ⟨⟨column, hp⟩, hrest⟩ := List.forall_mem_cons.mp hphrases
      obtain ⟨hconditions, hparams⟩ := ih hrest
      have hhead : p.params d = p.params d' := by
        rw [Phrase.params, Phrase.params, hp]
        rfl
      refine ⟨fun n => ?_, by rw [Phrase.paramsOf_cons, Phrase.paramsOf_cons, hhead, hparams]⟩
      have hcondition : p.condition d n = p.condition d' n := by
        cases p <;> cases hp <;> rfl
      rw [Phrase.conditionsFrom, Phrase.conditionsFrom, hcondition, hhead, hconditions]

/-- The statements of a filter whose phrases are known. -/
lemma isWorded_of_phrases (h : filter.mapM (Criterion.phrase m) = .ok ps) (start : List Param) :
    m.IsWorded filter start ps := by
  have hconditions (d : Dialect) : (filterConditions m d filter).runOn start =
      (.ok (Phrase.conditionsFrom d start.length ps), start ++ Phrase.paramsOf d ps) := by
    have hyields := yields_filterConditions m d filter start
    rwa [h] at hyields
  refine ⟨h, hconditions, count_of_phrases h, fun d spec => select_of_phrases h d, ?places,
    ?members, ?shift, fun d last => Phrase.without_leadNumbers_append d start last ps, ?columns⟩
  case places =>
    intro d before p after hps hp last
    have hstart : (start ++ Phrase.paramsOf d before).length =
        start.length + (Phrase.paramsOf d before).length := List.length_append
    have hall : start ++ Phrase.paramsOf d ps ++ last =
        (start ++ Phrase.paramsOf d before) ++ p.params d ++ (Phrase.paramsOf d after ++ last) := by
      rw [hps, Phrase.paramsOf_append, Phrase.paramsOf_cons]
      simp only [List.append_assoc]
    refine ⟨_, ?_, rfl, ?_⟩
    · rw [hps, Phrase.conditionsFrom_append]
      exact List.mem_append_right _ List.mem_cons_self
    · rw [hall, ← hstart]
      exact Phrase.map_param?_condition d hp _ _
  case members =>
    intro p hp c keys ht n
    obtain ⟨c', -, htarget⟩ := exists_target_of_phrases h hp
    have hkeys : keys ≠ [] := keys_ne_nil (htarget.trans (congrArg some ht))
    rw [ht]
    exact ⟨hkeys, Target.sql_expr_postgres c hkeys n, rfl⟩
  case shift =>
    intro before after hps
    refine length_paramsOf_postgres (m := m) fun p hp => ?_
    obtain ⟨c, -, ht⟩ := exists_target_of_phrases h (hps ▸ List.mem_append_left after hp)
    exact ⟨c.property, ht⟩
  case columns =>
    intro hcolumns d d'
    obtain ⟨hsame, hparams⟩ := eq_of_columns h hcolumns d d'
    refine ⟨by rw [hconditions, hconditions, hsame, hparams],
      by rw [count_of_phrases h, count_of_phrases h, hsame, hparams], fun spec hfilter => ?_⟩
    rw [select_of_phrases h d hfilter, select_of_phrases h d' hfilter, hsame, hparams]

/-- Either there is something wrong with a filter, and both dialects report the same; or it consists
of phrases, and both dialects put them into words. -/
theorem isWorded_or_fails (m : TableMapping) (filter : List Criterion) (start : List Param) :
    (∃ e, ∀ d, ((filterConditions m d filter).runOn start).1 = .error e ∧
      m.count d filter = .error e ∧
      ∀ spec : QuerySpec, spec.filter = filter → m.select d spec = .error e) ∨
    ∃ ps, m.IsWorded filter start ps := by
  cases h : filter.mapM (Criterion.phrase m) with
  | error e => exact .inl ⟨e, fun d => fails_of_phrases h d start⟩
  | ok ps => exact .inr ⟨ps, isWorded_of_phrases h start⟩

/-- One key more moves the places behind it on by one. -/
example :
    let m : TableMapping := Asset.schema.mapping
    let filter : List Criterion :=
      [⟨"properties.a.b", .equal, .int 7⟩, ⟨"id", .oneOf, .list [.text "x"]⟩]
    (filterConditions m .postgres filter).runOn [] =
        (.ok [.compare (.keysText "properties" [⟨1⟩, ⟨2⟩]) .equal ⟨3⟩, .oneOf (.column "id") [⟨4⟩]],
          [.text "a", .text "b", .text "7", .text "x"]) ∧
      (filterConditions m .sqlite filter).runOn [] =
        (.ok [.compare (.pathText "properties" ⟨1⟩) .equal ⟨2⟩, .oneOf (.column "id") [⟨3⟩]],
          [.text "$.\"a\".\"b\"", .text "7", .text "x"]) := by
  decide +kernel

end TableMapping

end LeasedStore
