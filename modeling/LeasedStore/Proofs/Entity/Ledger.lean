/-
What entities keep of their changes of state.

Negotiations and transfer processes count alike: entering the state that they are in counts on, any
other state starts at one, and a failure is one more state that is entered, with a detail that stays
when the state is left.  So after any changes the count is the length of the last run of changes
into the same state, and what was counted before is added only if no other state was ever entered.

* `StateChange.target`, `StateChange.detail?`: the state that is entered, and what went wrong;
* `Ledger`, `Ledger.record`: what is kept of the state, and of one more change;
* `Ledger.IsAfter`: what is kept after some changes;
* `Ledger.isAfter_nil`, `Ledger.IsAfter.record`: after none, and after one more.
-/
import Mathlib.Data.List.DropRight
import LeasedStore.Entity.ContractNegotiation
import LeasedStore.Entity.TransferProcess

namespace LeasedStore

/-! ### Changes -/

namespace StateChange

variable {σ : Type}

/-- The state that is entered; `failed` is that of a failure. -/
def target (failed : σ) : StateChange σ → σ
  | enter state => state
  | fail _ => failed

/-- What went wrong, if anything did. -/
def detail? : StateChange σ → Option String
  | enter _ => none
  | fail detail => some detail

end StateChange

lemma getLast?_filterMap_concat {α β : Type} (f : α → Option β) (xs : List α) (x : α)
    (y? : Option β) : ((xs ++ [x]).filterMap f).getLast?.or y? =
      (f x).or ((xs.filterMap f).getLast?.or y?) := by
  cases hx : f x <;> simp [hx]

/-! ### Ledgers -/

/-- What an entity keeps of its changes of state. -/
structure Ledger (σ : Type) where
  state : σ
  /-- How often in a row the state was entered. -/
  count : Int64
  /-- When it was entered last. -/
  since : Int64
  /-- What went wrong last. -/
  detail : Option String

namespace Ledger

variable {σ : Type} [DecidableEq σ] {failed : σ}

/-- What is kept after one more change at an instant. -/
def record (failed : σ) (l : Ledger σ) (c : StateChange σ × Int64) : Ledger σ where
  state := c.1.target failed
  count := if l.state = c.1.target failed then l.count + 1 else 1
  since := c.2
  detail := c.1.detail?.or l.detail

lemma nextStateCount_code {code : σ → Int64} (h : Function.Injective code) (current next : σ)
    (count : Int64) : nextStateCount (code current) (code next) count =
      if current = next then count + 1 else 1 := by
  simp only [nextStateCount, h.eq_iff]

/-- Is a ledger what one that there was is after some changes, each of them at its instant? -/
structure IsAfter (failed : σ) (start : Ledger σ) (changes : List (StateChange σ × Int64))
    (l : Ledger σ) : Prop where
  state : l.state = ((changes.map fun c => c.1.target failed).getLast?).getD start.state
  since : l.since = ((changes.map Prod.snd).getLast?).getD start.since
  /-- The length of the last run of changes into the same state, and what was counted before if all
  changes are into the state of the start. -/
  count : l.count.toInt =
    ((changes.map fun c => c.1.target failed).rtakeWhile (· = l.state)).length +
      if ∀ c ∈ changes, c.1.target failed = start.state then start.count.toInt else 0
  detail : l.detail = ((changes.filterMap fun c => c.1.detail?).getLast?).or start.detail

lemma isAfter_nil (start : Ledger σ) : IsAfter failed start [] start := by
  refine ⟨rfl, rfl, ?_, rfl⟩
  simp

/-- A count that is below the largest one is counted on. -/
lemma toInt_count_add_one {n : Int64} (h : n < Int64.maxValue) : (n + 1).toInt = n.toInt + 1 := by
  have hlt : n.toInt < Int64.maxValue.toInt := Int64.lt_iff_toInt_lt.mp h
  have hmax : Int64.maxValue.toInt = 2 ^ 63 - 1 := by decide
  have hmin : -2 ^ 63 ≤ n.toInt := n.le_toInt
  calc (n + 1).toInt = (n.toInt + 1).bmod (2 ^ 64) := Int64.toInt_add ..
    _ = n.toInt + 1 := Int.bmod_eq_of_le (by omega) (by omega)

namespace IsAfter

variable {start l : Ledger σ} {changes : List (StateChange σ × Int64)}

/-- The state is still that of the start if all changes were into it. -/
lemma state_of_forall (h : IsAfter failed start changes l)
    (hall : ∀ c ∈ changes, c.1.target failed = start.state) : l.state = start.state := by
  rw [h.state]
  cases hlast : (changes.map fun c => c.1.target failed).getLast? with
  | none => rfl
  | some t =>
      obtain ⟨c, hc, rfl⟩ := List.mem_map.mp (List.mem_of_getLast? hlast)
      exact hall c hc

/-- There is no last run of changes into another state than the last one. -/
lemma rtakeWhile_of_ne (h : IsAfter failed start changes l) {t : σ} (ht : l.state ≠ t) :
    (changes.map fun c => c.1.target failed).rtakeWhile (· = t) = [] := by
  refine List.rtakeWhile_eq_nil_iff.mpr fun hne => ?_
  have hlast := h.state
  rw [List.getLast?_eq_some_getLast hne, Option.getD_some] at hlast
  rw [← hlast]
  simpa using ht

/-- After one more change a ledger says what it should say, if it could count on. -/
theorem record (h : IsAfter failed start changes l) (hcount : l.count < Int64.maxValue)
    (c : StateChange σ × Int64) : IsAfter failed start (changes ++ [c]) (l.record failed c) := by
  refine ⟨by simp [Ledger.record], by simp [Ledger.record], ?_, ?_⟩
  · have hall : (∀ c' ∈ changes ++ [c], c'.1.target failed = start.state) ↔
        (∀ c' ∈ changes, c'.1.target failed = start.state) ∧
          c.1.target failed = start.state := by
      rw [List.forall_mem_append, List.forall_mem_singleton]
    rw [List.map_append, List.map_singleton, Ledger.record,
      List.rtakeWhile_concat_pos _ _ _ (by simp), List.length_append, List.length_singleton]
    simp only [hall]
    by_cases hstate : l.state = c.1.target failed
    · -- the run goes on
      have hsame : (∀ c' ∈ changes, c'.1.target failed = start.state) ∧
          c.1.target failed = start.state ↔
            ∀ c' ∈ changes, c'.1.target failed = start.state :=
        and_iff_left_of_imp fun hbefore => hstate ▸ h.state_of_forall hbefore
      rw [if_pos hstate, toInt_count_add_one hcount, h.count, ← hstate]
      simp only [hstate, hsame]
      push_cast
      exact Int.add_right_comm ..
    · -- a new run starts
      have hnone : ¬ ((∀ c' ∈ changes, c'.1.target failed = start.state) ∧
          c.1.target failed = start.state) := fun ⟨hbefore, hc⟩ =>
        hstate ((h.state_of_forall hbefore).trans hc.symm)
      rw [if_neg hstate, if_neg hnone, h.rtakeWhile_of_ne hstate]
      rfl
  · rw [getLast?_filterMap_concat, ← h.detail]
    rfl

end IsAfter

end Ledger

end LeasedStore
