/-
Computations that may fail.

* `Except.bind_eq_ok`, `map_eq_ok`, `mapError_eq_ok`: when a computation succeeds that is put
  together from others;
* `Except.length_of_mapM`, `exists_of_mem_mapM`, `mem_mapM_of_mem`, `mapM_take`, `mapM_eq_map`:
  results one behind the other, as many as there are computations, each of one of them and in their
  order.
-/
import Mathlib.Tactic.Common

namespace LeasedStore.Except

variable {ε α β : Type}

lemma bind_eq_ok {x : Except ε α} {f : α → Except ε β} {y : β} :
    (x >>= f) = .ok y ↔ ∃ a, x = .ok a ∧ f a = .ok y := by
  cases x <;> simp [bind, Except.bind]

lemma exists_of_isOk {x : Except ε α} (h : x.isOk = true) : ∃ a, x = .ok a := by
  cases x with
  | ok a => exact ⟨a, rfl⟩
  | error e => cases h

lemma exists_of_isOk_eq_false {x : Except ε α} (h : x.isOk = false) : ∃ e, x = .error e := by
  cases x with
  | ok a => cases h
  | error e => exact ⟨e, rfl⟩

lemma map_eq_error {x : Except ε α} {f : α → β} {e : ε} :
    x.map f = .error e ↔ x = .error e := by
  cases x <;> simp [Except.map]

lemma map_eq_ok {x : Except ε α} {f : α → β} {y : β} :
    x.map f = .ok y ↔ ∃ a, x = .ok a ∧ f a = y := by
  cases x <;> simp [Except.map]

lemma mapError_eq_ok {ε' : Type} {x : Except ε α} {f : ε → ε'} {y : α} :
    x.mapError f = .ok y ↔ x = .ok y := by
  cases x <;> simp [Except.mapError]

lemma getD_toOption_eq_true {x : Except ε Bool} : x.toOption.getD false = true ↔ x = .ok true := by
  cases x <;> simp [Except.toOption]

lemma toOption_eq_some {x : Except ε α} {a : α} : x.toOption = some a ↔ x = .ok a := by
  cases x <;> simp [Except.toOption]

/-! ### Results one behind the other -/

variable {f : α → Except ε β} {xs : List α} {ys : List β}

/-- There are as many results as computations that succeed. -/
lemma length_of_mapM (h : xs.mapM f = .ok ys) : ys.length = xs.length := by
  induction xs generalizing ys with
  | nil =>
      rw [List.mapM_nil] at h
      cases h
      rfl
  | cons x rest ih =>
      rw [List.mapM_cons] at h
      obtain ⟨y, -, h⟩ := bind_eq_ok.mp h
      obtain ⟨ys, hys, h⟩ := bind_eq_ok.mp h
      cases h
      rw [List.length_cons, List.length_cons, ih hys]

/-- Results one behind the other come from where they are computed. -/
lemma exists_of_mem_mapM {y : β} (h : xs.mapM f = .ok ys) (hy : y ∈ ys) :
    ∃ x ∈ xs, f x = .ok y := by
  induction xs generalizing ys with
  | nil =>
      rw [List.mapM_nil] at h
      cases h
      cases hy
  | cons x rest ih =>
      rw [List.mapM_cons] at h
      obtain ⟨z, hz, h⟩ := bind_eq_ok.mp h
      obtain ⟨zs, hzs, h⟩ := bind_eq_ok.mp h
      cases h
      rcases List.mem_cons.mp hy with rfl | hy
      · exact ⟨x, List.mem_cons_self .., hz⟩
      · obtain ⟨x', hx', hf⟩ := ih hzs hy
        exact ⟨x', List.mem_cons_of_mem _ hx', hf⟩

/-- What is computed is among the results. -/
lemma mem_mapM_of_mem {x : α} {y : β} (h : xs.mapM f = .ok ys) (hx : x ∈ xs) (hf : f x = .ok y) :
    y ∈ ys := by
  induction xs generalizing ys with
  | nil => cases hx
  | cons x' rest ih =>
      rw [List.mapM_cons] at h
      obtain ⟨z, hz, h⟩ := bind_eq_ok.mp h
      obtain ⟨zs, hzs, h⟩ := bind_eq_ok.mp h
      cases h
      rcases List.mem_cons.mp hx with rfl | hx
      · cases hz.symm.trans hf
        exact List.mem_cons_self ..
      · exact List.mem_cons_of_mem _ (ih hzs hx)

/-- The first results are those of the first computations. -/
lemma mapM_take (h : xs.mapM f = .ok ys) (n : ℕ) : (xs.take n).mapM f = .ok (ys.take n) := by
  induction xs generalizing ys n with
  | nil =>
      rw [List.mapM_nil] at h
      cases h
      simp [List.mapM_nil, pure, Except.pure]
  | cons x rest ih =>
      rw [List.mapM_cons] at h
      obtain ⟨y, hy, h⟩ := bind_eq_ok.mp h
      obtain ⟨ys', hys, h⟩ := bind_eq_ok.mp h
      cases h
      cases n with
      | zero => rfl
      | succ n =>
          rw [List.take_succ_cons, List.take_succ_cons, List.mapM_cons, hy, ih hys n]
          rfl

/-- The results of computations that all succeed. -/
lemma mapM_eq_map {g : α → β} (h : ∀ x ∈ xs, f x = .ok (g x)) : xs.mapM f = .ok (xs.map g) := by
  induction xs with
  | nil => rfl
  | cons x rest ih =>
      obtain ⟨hx, hrest⟩ := List.forall_mem_cons.mp h
      rw [List.mapM_cons, hx, ih hrest]
      rfl

/-- Computations that all succeed have results. -/
lemma exists_mapM (h : ∀ x ∈ xs, ∃ y, f x = .ok y) : ∃ ys, xs.mapM f = .ok ys := by
  induction xs with
  | nil => exact ⟨[], rfl⟩
  | cons x rest ih =>
      obtain ⟨⟨y, hy⟩, hrest⟩ := List.forall_mem_cons.mp h
      obtain ⟨ys, hys⟩ := ih hrest
      refine ⟨y :: ys, ?_⟩
      rw [List.mapM_cons, hy, hys]
      rfl

/-- The results of computations are those that they come to one by one. -/
lemma mapM_of_map_toOption (h : xs.map (fun x => (f x).toOption) = ys.map some) :
    xs.mapM f = .ok ys := by
  induction xs generalizing ys with
  | nil =>
      rw [List.map_eq_nil_iff.mp h.symm]
      rfl
  | cons x rest ih =>
      obtain ⟨y, ys', rfl, hx, hrest⟩ := List.map_eq_cons_iff.mp h.symm
      rw [List.mapM_cons, toOption_eq_some.mp hx.symm, ih hrest.symm]
      rfl

/-- What results have of what they are computed from, they have one by one. -/
lemma map_of_mapM {γ : Type} {g : β → γ} {g' : α → γ} (h : xs.mapM f = .ok ys)
    (hg : ∀ x ∈ xs, ∀ y, f x = .ok y → g y = g' x) : ys.map g = xs.map g' := by
  induction xs generalizing ys with
  | nil =>
      rw [List.mapM_nil] at h
      cases h
      rfl
  | cons x rest ih =>
      obtain ⟨hx, hrest⟩ := List.forall_mem_cons.mp hg
      rw [List.mapM_cons] at h
      obtain ⟨y, hy, h⟩ := bind_eq_ok.mp h
      obtain ⟨ys', hys, h⟩ := bind_eq_ok.mp h
      cases h
      rw [List.map_cons, List.map_cons, hx y hy, ih hys hrest]

end LeasedStore.Except
