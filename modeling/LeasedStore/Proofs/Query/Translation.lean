/-
Criteria, and the conditions that they become.

A condition that says what a criterion says holds on the row of an entity if the entity satisfies
the criterion.  An entity has to lie in its row in such a way that the criterion can be looked up
there: the keys in its documents and in the property must not be cut off or taken apart by the
reader.

* `QueriedEntity.IsAddressed`: can a property be looked up in the row of an entity?
* `PropertyValue.datum`: a value as conditions see it;
* `Expr.Reads.datum_row`: an expression sees the value of the property that it is for;
* `Placeholder.StandsFor.int?`, `StandsFor.text?`: what a place holds of an operand;
* `Comparison.holds_int`, `holds_text`: comparisons of integers and of texts;
* `Comparison.holds_datum`, `any_equal_holds_datum`: comparisons with operands, one or several;
* `Condition.Says.holds_of_datum`, `holds_row`: conditions hold where their criteria are met.
-/
import LeasedStore.Proofs.Database.Search
import LeasedStore.Proofs.Entity.Properties
import LeasedStore.Proofs.Json5.Member
import LeasedStore.Proofs.Sql.Binding
import LeasedStore.Proofs.Text.Parts

namespace LeasedStore

/-! ### Paths -/

/-- The keys of a property without backslashes and NULs can be named by a path. -/
lemma isPlainKey_of_memberKeys? {c : Column} {property : String} {keys : List String}
    (h : TableMapping.memberKeys? c property = some keys) (hbackslash : '\\' ∉ property.toList)
    (hnul : '\x00' ∉ property.toList) :
    (∃ path, stripStart? (c.property.toList ++ ['.']) property.toList = some path ∧
      keys = (splitOn '.' path).map String.ofList) ∧ ∀ key ∈ keys, Json5.IsPlainKey key := by
  obtain ⟨path, hpath, h⟩ := Option.bind_eq_some_iff.mp h
  dsimp only at h
  split at h
  · next hall =>
    cases h
    refine ⟨⟨path, hpath, rfl⟩, fun key hk => ?_⟩
    obtain ⟨part, hpart, rfl⟩ := List.mem_map.mp hk
    have hin : ∀ x ∈ part, x ∈ property.toList := fun x hx => by
      rw [stripStart?_eq_some_iff.mp hpath]
      exact List.mem_append_right _ (mem_of_mem_splitOn hpart hx)
    have hkey := List.all_eq_true.mp hall part hpart
    rw [JsonPath.isKey] at hkey
    simp only [Json5.IsPlainKey, String.toList_ofList]
    refine ⟨?_, fun hm => hbackslash (hin _ hm), fun hm => hnul (hin _ hm)⟩
    simpa using (Bool.and_eq_true_iff.mp hkey).2
  · cases h

/-! ### What a criterion looks at -/

/-- Can a property be looked up in the row of an entity?  A path must name keys as they are, in a
document whose keys are read as they are, and lead to nothing but strings, signed words and
nulls. -/
structure QueriedEntity.IsAddressed {α : Type} [QueriedEntity α] (e : α) (property : String) :
    Prop where
  backslash : '\\' ∉ property.toList
  nul : '\x00' ∉ property.toList
  hasPlainKeys : ∀ j keys, path? e property = some (j, keys) → j.HasPlainKeys
  isScalar : ∀ j keys m, path? e property = some (j, keys) → j.along? keys = some m → m.IsScalar

namespace PropertyValue

/-- A value as conditions see it. -/
def datum (v : PropertyValue) : Datum := .ofCell v.cell

lemma datum_text (s : Option String) :
    (text s).datum = (s.map fun s => Datum.text (Text.codes s.toList)).getD .null := by
  cases s <;> rfl

end PropertyValue

section Targets

variable {α : Type} [Entity α] [DocumentedEntity α] [QueriedEntity α] [LawfulQueried α]
  {e : α} {property : String} {c : Column} {keys : List String}

open QueriedEntity (value path? IsAddressed)

/-- The column that a property can be compared by holds its value. -/
lemma cell_of_plainColumn? (e : α)
    (h : (Entity.schema α).mapping.plainColumn? property = some c) :
    (Entity.row e).cell c.name = (value e property).cell ∧ (value e property).kind = c.kind := by
  obtain ⟨hc, hkind⟩ := Option.filter_eq_some_iff.mp h
  have hproperty : c.property = property := by simpa using List.find?_some hc
  obtain ⟨hpath, v, hv, hk, hcell⟩ := LawfulQueried.cell_column e c (List.mem_of_find?_eq_some hc)
    (by simpa using hkind)
  rw [hproperty] at hpath hv
  have hvalue : value e property = v := by rw [value, hpath, hv]; rfl
  rw [hvalue]
  exact ⟨hcell, hk⟩

/-- The member that a property is the path to is the value of the property. -/
lemma text_of_member? (hs : Entity.IsStorable e) (ha : IsAddressed e property)
    (h : (Entity.schema α).mapping.member? property = some (.member c keys)) :
    ∃ s, memberText (JsonPath.text keys) ((Entity.row e).cell c.name) =
        .ok (s.map fun s => Text.codes s.toList) ∧ value e property = .text s := by
  obtain ⟨name, hname, h⟩ := Option.bind_eq_some_iff.mp h
  obtain ⟨c', hc, h⟩ := Option.bind_eq_some_iff.mp h
  obtain ⟨keys', hkeys, h⟩ := Option.bind_eq_some_iff.mp h
  cases h
  obtain ⟨document, hdocument, hmem, hcell⟩ := LawfulQueried.cell_document e name c hname hc
  obtain ⟨⟨path, hstrip, rfl⟩, hplain⟩ := isPlainKey_of_memberKeys? hkeys ha.backslash ha.nul
  have hpath : path? e property =
      some (document e, (splitOn '.' path).map String.ofList) := by
    rw [path?, hdocument]
    simp only [bind, Option.bind, hstrip]
    rfl
  refine ⟨_, ?_, by rw [value, hpath]⟩
  rw [hcell]
  exact memberText_compress hplain (hs _ hmem) (ha.hasPlainKeys _ _ hpath)
    fun m hm => ha.isScalar _ _ m hpath hm

/-- An expression sees the value of the property that it is for. -/
lemma Expr.Reads.datum_row {params : List Param} {expr : Expr} {target : Target}
    (h : expr.Reads params target) (hs : Entity.IsStorable e) (ha : IsAddressed e property)
    (ht : (Entity.schema α).mapping.target? property = some target) :
    expr.datum params (Entity.row e) = .ok (value e property).datum ∧
      (value e property).kind = target.kind := by
  rw [TableMapping.target?] at ht
  split at ht
  -- a column holds the value itself
  · next c hc =>
    cases ht
    cases h
    obtain ⟨hcell, hkind⟩ := cell_of_plainColumn? e hc
    rw [datum, hcell]
    exact ⟨rfl, hkind⟩
  -- a member holds its text, which is read out of the document that was written
  · cases h with
    | column c =>
        obtain ⟨name, -, ht⟩ := Option.bind_eq_some_iff.mp ht
        obtain ⟨c', -, ht⟩ := Option.bind_eq_some_iff.mp ht
        obtain ⟨keys, -, ht⟩ := Option.bind_eq_some_iff.mp ht
        cases ht
    | member c keys path hpath =>
        obtain ⟨s, htext, hvalue⟩ := text_of_member? hs ha ht
        rw [hvalue]
        refine ⟨?_, rfl⟩
        have hplace : path.cell params = .text (JsonPath.text keys) := by
          rw [Placeholder.cell, hpath]
          rfl
        rw [datum, hplace]
        dsimp only
        rw [htext, PropertyValue.datum_text]
        cases s <;> rfl

end Targets

/-! ### Operands -/

namespace Placeholder.StandsFor

variable {params : List Param} {table property : String} {o : Operand} {p : Placeholder}

/-- What is compared with integers is the operand read as one. -/
lemma int? (h : p.StandsFor params table property .integer o) :
    ∃ n, o.int? = some n ∧ p.datum params = .int n := by
  obtain ⟨v, hv, hp⟩ := h
  rw [datum, cell, hp]
  cases o with
  | int n =>
      cases hv
      exact ⟨n, rfl, rfl⟩
  | text s =>
      rw [coerce] at hv
      split at hv
      · next n hn =>
        cases hv
        exact ⟨n, hn, rfl⟩
      · cases hv
  | list os => cases hv

/-- What is compared with texts is the operand as one. -/
lemma text? (h : p.StandsFor params table property .text o) :
    ∃ s, o.text? = some s ∧ p.datum params = .text (Text.codes s.toList) := by
  obtain ⟨v, hv, hp⟩ := h
  rw [datum, cell, hp]
  cases o with
  | int n =>
      cases hv
      exact ⟨_, rfl, rfl⟩
  | text s =>
      cases hv
      exact ⟨s, rfl, rfl⟩
  | list os => cases hv

end Placeholder.StandsFor

/-! ### Comparisons -/

namespace Comparison

lemma holds_null (c : Comparison) (b : Datum) : c.holds .null b = false := rfl

/-- What is no null is compared by its order, likeness aside. -/
lemma holds_eq_accepts {c : Comparison} {a b : Datum} (hc : c ≠ .like) (ha : a ≠ .null)
    (hb : b ≠ .null) : c.holds a b = c.accepts (a.order b) := by
  cases c with
  | like => exact absurd rfl hc
  | equal => simp [holds, accepts, ha, hb]
  | notEqual => simp [holds, accepts, ha, hb]
  | less => simp [holds, accepts, ha, hb]
  | lessOrEqual => simp [holds, accepts, ha, hb]
  | greater => simp [holds, accepts, ha, hb]
  | greaterOrEqual => simp [holds, accepts, ha, hb]

lemma holds_int {c : Comparison} (hc : c ≠ .like) (m n : Int64) :
    c.holds (.int m) (.int n) = c.accepts (compare m n) :=
  holds_eq_accepts hc (by simp) (by simp)

/-- Texts are compared by their bytes. -/
lemma holds_text (c : Comparison) (s t : String) :
    c.holds (.text (Text.codes s.toList)) (.text (Text.codes t.toList)) = c.holdsOfTexts s t := by
  by_cases hc : c = .like
  · subst hc
    rfl
  · have horder : (Datum.text (Text.codes s.toList)).order (.text (Text.codes t.toList)) =
        Text.order s t := (Text.compare_bytes s.toList t.toList).symm
    rw [holds_eq_accepts hc (by simp) (by simp), horder, holdsOfTexts]
    exact hc

/-- An integer equals one that an operand is read as. -/
lemma equal_holds_intOperand {n m : Int64} {o : Operand} (h : o.int? = some m) :
    equal.holds (.int n) (.int m) = decide (o.int? = some n) := by
  have heq : compare n m = .eq ↔ o.int? = some n := by
    rw [h, Option.some.injEq]
    exact Std.LawfulEqOrd.compare_eq_iff_eq.trans eq_comm
  rw [holds_int (by decide), accepts, decide_eq_decide]
  exact heq

/-- A text equals one that an operand is. -/
lemma equal_holds_textOperand {s t : String} {o : Operand} (h : o.text? = some t) :
    equal.holds (.text (Text.codes s.toList)) (.text (Text.codes t.toList)) =
      decide (o.text? = some s) := by
  have heq : equal.holds (.ofCell (.text s)) (.ofCell (.text t)) = true ↔ o.text? = some s := by
    rw [h, Option.some.injEq]
    exact equal_holds_text.trans eq_comm
  rw [Bool.eq_iff_iff, decide_eq_true_iff]
  exact heq

end Comparison

/-! ### Conditions -/

/-- Places that stand for operands, one by one, hold a value if the operands do. -/
lemma any_of_standsFor {params : List Param} {table property : String} {kind : ColumnKind}
    {os : List Operand} {ps : List Placeholder} {f : Placeholder → Bool} {g : Operand → Bool}
    (h : List.Forall₂ (Placeholder.StandsFor params table property kind) os ps)
    (hfg : ∀ o p, p.StandsFor params table property kind o → f p = g o) :
    ps.any f = os.any g := by
  induction h with
  | nil => rfl
  | cons hp _ ih => rw [List.any_cons, List.any_cons, hfg _ _ hp, ih]

section Conditions

variable {params : List Param} {c : Criterion}

/-- A comparison holds of a value if a criterion with it is met. -/
lemma Comparison.holds_datum {op : Comparison} {v : PropertyValue} {table : String}
    {p : Placeholder} (ho : c.operator = .compare op) (hlike : op = .like → v.kind = .text)
    (hp : p.StandsFor params table c.property v.kind c.operand) :
    op.holds v.datum (p.datum params) = c.isMet v := by
  cases v with
  | int n =>
      obtain ⟨m, hm, hdatum⟩ := hp.int?
      have hop : op ≠ .like := fun h => by cases hlike h
      rw [hdatum, Criterion.isMet, ho, hm]
      exact holds_int hop n m
  | text s =>
      cases s with
      | none => exact holds_null op _
      | some s =>
          obtain ⟨t, ht, hdatum⟩ := hp.text?
          rw [hdatum, Criterion.isMet, ho, ht]
          exact holds_text op s t

/-- Some place holds a value if a criterion of membership is met. -/
lemma any_equal_holds_datum {v : PropertyValue} {table : String} {ps : List Placeholder}
    (ho : c.operator = .oneOf)
    (hp : List.Forall₂ (Placeholder.StandsFor params table c.property v.kind) c.operand.items ps) :
    (ps.any fun p => Comparison.equal.holds v.datum (p.datum params)) = c.isMet v := by
  cases v with
  | int n =>
      rw [Criterion.isMet, ho]
      refine any_of_standsFor hp fun o p hs => ?_
      obtain ⟨m, hm, hdatum⟩ := hs.int?
      rw [hdatum]
      exact Comparison.equal_holds_intOperand hm
  | text s =>
      cases s with
      | none => simp [Criterion.isMet, PropertyValue.datum, PropertyValue.cell, Param.cell,
          Datum.ofCell, Comparison.holds_null]
      | some s =>
          rw [Criterion.isMet, ho]
          refine any_of_standsFor hp fun o p hs => ?_
          obtain ⟨t, ht, hdatum⟩ := hs.text?
          rw [hdatum]
          exact Comparison.equal_holds_textOperand ht

/-- A condition that says what a criterion says holds on a row if the criterion is met by the value
that is read from the row. -/
theorem Condition.Says.holds_of_datum {m : TableMapping} {cond : Condition} {r : Row}
    {v : PropertyValue} (h : cond.Says params m c)
    (hv : ∀ {e : Expr} {target : Target}, e.Reads params target →
      m.target? c.property = some target → e.datum params r = .ok v.datum ∧ v.kind = target.kind)
    (leases : LeaseTable) : cond.holds leases params r = .ok (c.isMet v) := by
  cases h with
  | compare target ht e he op ho hlike p hp =>
      obtain ⟨hdatum, hkind⟩ := hv he ht
      rw [← hkind] at hlike hp
      rw [holds, hdatum]
      exact congrArg _ (Comparison.holds_datum ho hlike hp)
  | oneOf target ht e he ho ps hp =>
      obtain ⟨hdatum, hkind⟩ := hv he ht
      rw [← hkind] at hp
      rw [holds, hdatum]
      exact congrArg _ (any_equal_holds_datum ho hp)
  -- an empty list has no member, whatever the value is
  | never target ht ho hempty =>
      rw [holds]
      cases v with
      | int n => rw [Criterion.isMet, ho, hempty]; rfl
      | text s => cases s <;> rw [Criterion.isMet]; rw [ho, hempty]; rfl

/-- A condition that says what a criterion says holds on the row of an entity if the entity
satisfies the criterion. -/
theorem Condition.Says.holds_row {α : Type} [Entity α] [DocumentedEntity α] [QueriedEntity α]
    [LawfulQueried α] {e : α} {cond : Condition}
    (h : cond.Says params (Entity.schema α).mapping c) (hs : Entity.IsStorable e)
    (ha : QueriedEntity.IsAddressed e c.property) (leases : LeaseTable) :
    cond.holds leases params (Entity.row e) =
      .ok (c.isMet (QueriedEntity.value e c.property)) :=
  h.holds_of_datum (fun he ht => he.datum_row hs ha ht) leases

end Conditions

end LeasedStore
