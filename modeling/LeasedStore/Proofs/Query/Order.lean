/-
The order of answers.

A specification orders entities linearly: entities that it leaves level have the same id.  So
neither the order in which they are stored makes a difference, nor whether they are sorted before or
after those that do not match are left out.

* `Text.eq_of_order`: texts that are level are equal;
* `eq_mergeSort_of_level`: what is level with nothing else can be sorted in one way only;
* `QuerySpec.order` is a transitive comparison;
* `QuerySpec.id_eq_of_order`: entities that are level have the same id;
* `QuerySpec.eq_mergeSort`: entities with ids of their own can be sorted in one way only;
* `QuerySpec.answer_of_perm`: it does not matter in which order the entities are stored.
-/
import Mathlib.Data.List.Nodup
import LeasedStore.Proofs.Query.Meaning
import LeasedStore.Proofs.Text.Bytes

namespace LeasedStore

/-! ### Comparisons -/

namespace Text

instance : Std.TransCmp order :=
  inferInstanceAs (Std.TransCmp (compareOn fun s : String => bytes s.toList))

lemma eq_of_order {s t : String} (h : order s t = .eq) : s = t := by
  rw [order, compare_bytes] at h
  exact String.toList_inj.mp (codes_injective (Std.LawfulEqOrd.eq_of_compare h))

end Text

namespace PropertyValue

/-- The bytes of a text. -/
def bytes? : PropertyValue → Option (List Nat)
  | text s => s.map fun s => Text.bytes s.toList
  | int _ => none

/-- The integer that a value is. -/
def int? : PropertyValue → Option Int64
  | int n => some n
  | text _ => none

/-- What has no bytes comes before what has, and what is no integer before what is one. -/
lemma order_eq_compareLex : order = compareLex (compareOn bytes?) (compareOn int?) := by
  funext v w
  cases v with
  | int m => cases w with
    | int n => rfl
    | text t => cases t <;> rfl
  | text s =>
      cases s with
      | none => cases w with
        | int n => rfl
        | text t => cases t <;> rfl
      | some s => cases w with
        | int n => rfl
        | text t =>
            cases t with
            | none => rfl
            | some t => exact (Ordering.then_eq (o := Text.order s t)).symm

instance : Std.TransCmp order := by
  rw [order_eq_compareLex]
  infer_instance

end PropertyValue

/-- A direction turns a comparison around or leaves it. -/
instance {β : Type} (cmp : β → β → Ordering) [Std.TransCmp cmp] (d : SortOrder) :
    Std.TransCmp fun a b => d.directed (cmp a b) := by
  cases d with
  | ascending => exact inferInstanceAs (Std.TransCmp cmp)
  | descending =>
      have hswap : (fun a b => SortOrder.descending.directed (cmp a b)) = fun a b => cmp b a := by
        funext a b
        exact Std.OrientedCmp.eq_swap.symm
      rw [hswap]
      infer_instance

/-! ### Specifications -/

lemma transCmp_on {β γ : Type} (f : β → γ) (cmp : γ → γ → Ordering) [Std.TransCmp cmp] :
    Std.TransCmp fun a b => cmp (f a) (f b) where
  eq_swap := Std.OrientedCmp.eq_swap
  isLE_trans := Std.TransCmp.isLE_trans

/-! ### Sorted lists -/

section Sorted

variable {β : Type} {cmp : β → β → Ordering} [Std.TransCmp cmp] {xs ys : List β}

/-- Sorted lists ascend. -/
lemma pairwise_mergeSort (cmp : β → β → Ordering) [Std.TransCmp cmp] (xs : List β) :
    (xs.mergeSort fun a b => (cmp a b).isLE).Pairwise fun a b => (cmp a b).isLE = true := by
  refine List.pairwise_mergeSort (fun a b c => Std.TransCmp.isLE_trans) (fun a b => ?_) xs
  have hswap : cmp b a = (cmp a b).swap := Std.OrientedCmp.eq_swap
  rw [hswap]
  cases cmp a b <;> rfl

/-- What is level with nothing else can be sorted in one way only. -/
lemma eq_mergeSort_of_level (hlevel : ∀ a ∈ xs, ∀ b ∈ xs, cmp a b = .eq → a = b)
    (hperm : ys.Perm xs) (hsorted : ys.Pairwise fun a b => (cmp a b).isLE = true) :
    ys = xs.mergeSort fun a b => (cmp a b).isLE := by
  refine (hperm.trans (List.mergeSort_perm ..).symm).eq_of_pairwise (fun a b ha hb hab hba => ?_)
    hsorted (pairwise_mergeSort cmp xs)
  exact hlevel a (hperm.mem_iff.mp ha) b (List.mem_mergeSort.mp hb)
    (Std.OrientedCmp.isLE_antisymm hab hba)

/-- Sorting what is level with nothing else before or after some of it is left out comes to the
same. -/
lemma filter_mergeSort_of_level (hlevel : ∀ a ∈ xs, ∀ b ∈ xs, cmp a b = .eq → a = b)
    (f : β → Bool) :
    (xs.mergeSort fun a b => (cmp a b).isLE).filter f =
      (xs.filter f).mergeSort fun a b => (cmp a b).isLE :=
  eq_mergeSort_of_level
    (fun a ha b hb => hlevel a (List.mem_filter.mp ha).1 b (List.mem_filter.mp hb).1)
    ((List.mergeSort_perm ..).filter f) ((pairwise_mergeSort cmp xs).filter f)

end Sorted

namespace QuerySpec

variable {α : Type} [Entity α] [QueriedEntity α] {spec : QuerySpec} {es : List α}

/-- Specifications order entities transitively. -/
instance (spec : QuerySpec) : Std.TransCmp (spec.order (α := α)) := by
  have hid := transCmp_on (Entity.id : α → String) Text.order
  obtain ⟨filter, sortField, sortOrder, offset, limit⟩ := spec
  cases sortField with
  | none => exact hid
  | some p =>
      have hproperty := transCmp_on (fun e : α => QueriedEntity.value e p)
        (fun v w => sortOrder.directed (PropertyValue.order v w))
      exact inferInstanceAs (Std.TransCmp (compareLex (fun a b : α => sortOrder.directed
        ((QueriedEntity.value a p).order (QueriedEntity.value b p)))
        fun a b => Text.order (Entity.id a) (Entity.id b)))

lemma id_eq_of_order {a b : α} (h : spec.order a b = .eq) : Entity.id a = Entity.id b := by
  rw [order] at h
  split at h
  · exact Text.eq_of_order h
  · exact Text.eq_of_order (Ordering.then_eq_eq.mp h).2

lemma eq_mergeSort {es' : List α} (hes : (es.map Entity.id).Nodup) (hperm : es'.Perm es)
    (hsorted : es'.Pairwise fun a b => (spec.order a b).isLE = true) :
    es' = es.mergeSort fun a b => (spec.order a b).isLE :=
  eq_mergeSort_of_level (fun _ ha _ hb h => List.inj_on_of_nodup_map hes ha hb (id_eq_of_order h))
    hperm hsorted

lemma filter_mergeSort (hes : (es.map Entity.id).Nodup) (f : α → Bool) :
    (es.mergeSort fun a b => (spec.order a b).isLE).filter f =
      (es.filter f).mergeSort fun a b => (spec.order a b).isLE :=
  filter_mergeSort_of_level
    (fun _ ha _ hb h => List.inj_on_of_nodup_map hes ha hb (id_eq_of_order h)) f

/-- What a specification asks for does not depend on the order of the entities that there are. -/
lemma answer_of_perm {es' : List α} (hes : (es.map Entity.id).Nodup) (hperm : es'.Perm es) :
    spec.answer es' = spec.answer es := by
  have hfound : spec.found es' = spec.found es :=
    eq_mergeSort (hes.sublist (List.filter_sublist.map _))
      ((List.mergeSort_perm ..).trans (hperm.filter _)) (pairwise_mergeSort _ _)
  rw [answer, answer, hfound]

end QuerySpec

end LeasedStore
