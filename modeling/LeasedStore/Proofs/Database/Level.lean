/-
What is level with the value at which a column is fixed.

A column of integers may hold a real number, if somebody has written one there.  Where it is level
with an integer nevertheless, no comparison but that of likeness can tell the two apart.

* `Datum.IsPlain`, `Datum.eq_of_order`: what is level is equal, unless it is a real number;
* `Datum.order_of_level`: what is level is ordered alike;
* `Comparison.holds_of_level`, `Condition.holds_of_level`: comparisons and conditions hold alike of
  what is level, likeness aside.
-/
import LeasedStore.Proofs.Database.Search
import LeasedStore.Proofs.Decimal.Order

namespace LeasedStore

/-! ### What is compared -/

namespace Datum

variable {a b c : Datum}

/-- Is the value no real number? -/
def IsPlain (d : Datum) : Prop := ∀ x, d ≠ .real x

/-- What is level is equal, unless it is a real number. -/
lemma eq_of_order (ha : a.IsPlain) (hb : b.IsPlain) (h : a.order b = .eq) : a = b := by
  cases a with
  | real x => exact absurd rfl (ha x)
  | null => cases b <;> first | rfl | cases h
  | int m =>
      cases b with
      | real x => exact absurd rfl (hb x)
      | null => cases h
      | int n => rw [Std.LawfulEqOrd.eq_of_compare h]
      | text t => cases h
  | text s =>
      cases b with
      | real x => exact absurd rfl (hb x)
      | null => cases h
      | int n => cases h
      | text t => rw [Std.LawfulEqOrd.eq_of_compare h]

/-- What is level with a value is ordered like it among values that are no real numbers. -/
lemma order_of_level (hb : b.IsPlain) (hc : c.IsPlain) (h : a.order b = .eq) :
    a.order c = b.order c := by
  cases a with
  | real x =>
      cases b with
      | real y => exact absurd rfl (hb y)
      | null => cases h
      | text t => cases h
      | int n =>
          -- only here do two kinds of numbers meet: the word is level with the real number, so any
          -- third is ordered alike
          have hlevel : Decimal.RealNumber.compareInt n x = .eq := Ordering.swap_eq_eq.mp h
          cases c with
          | real y => exact absurd rfl (hc y)
          | null => rfl
          | text t => rfl
          | int m =>
              calc (Decimal.RealNumber.compareInt m x).swap
                  _ = (compare m n).swap := by
                      rw [Decimal.RealNumber.compareInt_of_level hlevel]
                  _ = compare n m := Std.OrientedCmp.eq_swap.symm
  | null => rw [eq_of_order (a := null) nofun hb h]
  | int m => rw [eq_of_order (a := int m) nofun hb h]
  | text s => rw [eq_of_order (a := text s) nofun hb h]

/-- Nothing but null is level with null. -/
lemma eq_null_iff_of_level (h : a.order b = .eq) : a = null ↔ b = null := by
  cases a <;> cases b <;> simp [order] at h ⊢

end Datum

/-- Comparisons hold alike of what is level, likeness aside. -/
lemma Comparison.holds_of_level {op : Comparison} {a b c : Datum} (hop : op ≠ .like)
    (hb : b.IsPlain) (hc : c.IsPlain) (h : a.order b = .eq) : op.holds a c = op.holds b c := by
  have hnull : a ≠ .null ↔ b ≠ .null := not_congr (Datum.eq_null_iff_of_level h)
  have horder : a.order c = b.order c := Datum.order_of_level hb hc h
  cases op with
  | like => exact absurd rfl hop
  | equal => simp only [holds, hnull, horder]
  | notEqual => simp only [holds, hnull, horder]
  | less => simp only [holds, hnull, horder]
  | lessOrEqual => simp only [holds, hnull, horder]
  | greater => simp only [holds, hnull, horder]
  | greaterOrEqual => simp only [holds, hnull, horder]

/-! ### Conditions -/

/-- Parameters are no real numbers. -/
lemma Placeholder.isPlain_datum (p : Placeholder) (params : List Param) :
    (p.datum params).IsPlain := by
  intro x h
  rw [datum, cell] at h
  cases hp : p.param? params with
  | none => rw [hp] at h; cases h
  | some v =>
      rw [hp] at h
      cases v with
      | text s => cases h
      | int n => cases h
      | nullableText s => cases s <;> cases h
      | nullableInt n => cases n <;> cases h

namespace Condition

variable {leases leases' : LeaseTable} {params : List Param} {r r' : Row} {c : Condition}
  {column : String}

/-- Is the condition about likeness? -/
def isLikeness : Condition → Bool
  | compare _ op _ => op = .like
  | _ => false

/-- A condition on a single column is a comparison with it, or that it is one of some values. -/
lemma column?_eq_some (h : c.column? = some column) :
    (∃ op p, c = .compare (.column column) op p) ∨ ∃ ps, c = .oneOf (.column column) ps := by
  cases c with
  | compare e op p =>
      cases e with
      | column name => cases h; exact .inl ⟨op, p, rfl⟩
      | pathText name path => cases h
      | keysText name keys => cases h
  | oneOf e ps =>
      cases e with
      | column name => cases h; exact .inr ⟨ps, rfl⟩
      | pathText name path => cases h
      | keysText name keys => cases h
  | never => cases h
  | unleased idExpr kind now => cases h

/-- Conditions on a single column hold alike where what it holds is level, likeness aside. -/
lemma holds_of_level (hc : c.column? = some column) (hlike : c.isLikeness = false)
    (hplain : (Datum.ofCell (r'.cell column)).IsPlain)
    (h : (Datum.ofCell (r.cell column)).order (.ofCell (r'.cell column)) = .eq) :
    c.holds leases params r = c.holds leases' params r' := by
  obtain ⟨op, p, rfl⟩ | ⟨ps, rfl⟩ := column?_eq_some hc
  · have hop : op ≠ .like := by simpa [isLikeness] using hlike
    have hheld := Comparison.holds_of_level hop hplain (p.isPlain_datum params) h
    exact congrArg Except.ok hheld
  · have hheld : ps.any (fun p => Comparison.equal.holds (.ofCell (r.cell column))
          (p.datum params)) =
        ps.any fun p => Comparison.equal.holds (.ofCell (r'.cell column)) (p.datum params) := by
      congr 1
      funext p
      exact Comparison.holds_of_level nofun hplain (p.isPlain_datum params) h
    exact congrArg Except.ok hheld

end Condition

end LeasedStore
