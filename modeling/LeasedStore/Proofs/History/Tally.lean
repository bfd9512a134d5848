/-
Counters tell what happened: they count the calls that were made, one by one.

Counts last even where the effects of a call are undone, so the calls of a transaction that is
rolled back are among those that are counted, although they drop out of the past.

* `Entry.Mutates`, `Entry.IsRefused`, `Entry.Counts`: does a counter count a call?
* `Call.tallies_act`, `Entry.counter_after`: a call adds to the counters that count it;
* `History.calls`: all calls that were made, those included that were undone;
* `History.counters_of_run`: every counter has gone up by the number of calls that it counts.
-/
import LeasedStore.Proofs.History.Linked
import LeasedStore.Proofs.Store.Tally

namespace LeasedStore

/-! ### What is counted of a call -/

/-- How a call of a store writes an entity, if it does. -/
def StoreStep.mutation? {α : Type} : StoreStep α → Option Mutation
  | .create _ => some .create
  | .update .. => some .update
  | .delete .. => some .delete
  | _ => none

/-- How a call writes an entity, if it does, and of which kind. -/
def Call.mutation? : Call → Option (String × Mutation)
  | store k s => s.mutation?.map fun op => (k.schema.kind, op)
  | _ => none

namespace Entry

/-- Did a call create, update or delete an entity of a kind? -/
def Mutates (x : Entry) (kind : String) (op : Mutation) : Prop :=
  x.call.mutation? = some (kind, op) ∧ x.Succeeds

/-- Was a call refused the lease of an entity of a kind that it wants to take, to give up or to use
up? -/
def IsRefused (x : Entry) (kind : String) : Prop :=
  (∃ id holder, x.call.purpose = .acquire ⟨kind, id⟩ holder ∨
    x.call.purpose = .release ⟨kind, id⟩ holder ∨ x.call.purpose = .write ⟨kind, id⟩ holder) ∧
  ∃ e, x.answer = .error e ∧ e.isLeaseConflict = true

/-- Is a call one of those that a counter counts? -/
def Counts (x : Entry) : Counter → Prop
  | .leaseAcquired kind => ∃ id holder, x.Acquires ⟨kind, id⟩ holder
  | .leaseConflict kind => x.IsRefused kind
  | .mutation kind op => x.Mutates kind op

end Entry

/-! ### Counting one call -/

/-- What a success is counted as. -/
def Purpose.won? : Purpose → Option Counter
  | .acquire r _ => some (.leaseAcquired r.kind)
  | _ => none

/-- What a refusal for want of a lease is counted as. -/
def Purpose.lost? : Purpose → Option Counter
  | .acquire r _ | .release r _ | .write r _ => some (.leaseConflict r.kind)
  | _ => none

/-- What the success of a call is counted as. -/
def Call.won? (c : Call) : Option Counter :=
  match c.mutation? with
  | some (kind, op) => some (.mutation kind op)
  | none => c.purpose.won?

/-- A call of a lease manager counts what its outcome says. -/
lemma LeaseManager.tallies_step (k : StoreKind) (m : LeaseManager)
    (hm : m.resourceKind = k.schema.kind) (l : LeaseStep) :
    (m.step l).Tallies (l.purpose k).won? (l.purpose k).lost? := by
  cases l with
  | acquire id holder =>
      have h := m.tallies_acquireIn id holder m.duration
      rw [hm] at h
      exact h.connect_bind.bind_pure _
  | acquireFor id holder d =>
      have h := m.tallies_acquireIn id holder d.millis
      rw [hm] at h
      exact h.connect_bind.bind_pure _
  | release id holder =>
      have h := m.tallies_consumeIn id holder
      rw [hm] at h
      exact h.connect_bind.bind_pure _
  | find id => exact (Action.tallies_read _).bind_pure _
  | breakLease id => exact (Action.tallies_change _).connect_bind.bind_pure _

/-- So does one inside a transaction. -/
lemma LeaseManager.tallies_call (k : StoreKind) (m : LeaseManager)
    (hm : m.resourceKind = k.schema.kind) (l : LeaseCall) :
    (m.call l).Tallies (l.purpose k).won? (l.purpose k).lost? := by
  cases l with
  | acquire id holder d =>
      have h := m.tallies_acquireIn id holder d
      rw [hm] at h
      exact h.bind_pure _
  | consume id holder =>
      have h := m.tallies_consumeIn id holder
      rw [hm] at h
      exact h.bind_pure _
  | describe id => exact (Action.tallies_read _).bind_pure _

/-- A call of a store counts what its outcome says. -/
lemma EntityStore.tallies_step {k : StoreKind} (s : EntityStore k.Record)
    (call : StoreStep k.Record) :
    (s.step call).Tallies (Call.store k call).won? (call.purpose k).lost? := by
  cases call with
  | create e => exact (s.tallies_create e).bind_pure _
  | update e holder => exact (s.tallies_guarded _ _ _ _).bind_pure _
  | delete id holder => exact (s.tallies_guarded _ _ _ _).bind_pure _
  | lease l => exact (s.leases.tallies_step k rfl l).bind_pure _
  | _ => exact (Action.tallies_read _).bind_pure _

/-- Every call counts what its outcome says. -/
lemma Call.tallies_act (c : ControlPlane) (call : Call) :
    (call.act c).Tallies call.won? call.purpose.lost? := by
  cases call with
  | store k s => exact ((c.store k).tallies_step s).bind_pure _
  | candidates k max filter => exact ((Action.tallies_read _).bind_pure _).bind_pure _
  | within k l => exact (((c.store k).leases.tallies_call k rfl l).bind_pure _).connect_bind
  | advance d => exact fun b => rfl
  | setClock millis => exact fun b => rfl

namespace Call

variable {c : Call} {kind : String} {op : Mutation}

lemma won?_of_mutation {m : String × Mutation} (h : c.mutation? = some m) :
    c.purpose.won? = none := by
  cases c with
  | store k s => cases s <;> first | rfl | cases h
  | _ => cases h

/-- The calls whose success is counted as a lease taken. -/
lemma won?_eq_acquired : c.won? = some (.leaseAcquired kind) ↔
    ∃ id holder, c.purpose = .acquire ⟨kind, id⟩ holder := by
  cases hm : c.mutation? with
  | some m =>
      have hp := won?_of_mutation hm
      rw [won?, hm]
      refine iff_of_false nofun ?_
      rintro ⟨id, holder, h⟩
      rw [h] at hp
      cases hp
  | none =>
      rw [won?, hm]
      cases c.purpose with
      | acquire r holder => cases r; simp [Purpose.won?]
      | _ => simp [Purpose.won?]

lemma won?_eq_mutation : c.won? = some (.mutation kind op) ↔ c.mutation? = some (kind, op) := by
  cases hm : c.mutation? with
  | some m => simp [won?, hm, Prod.ext_iff]
  | none => cases hp : c.purpose <;> simp [won?, hm, hp, Purpose.won?]

lemma won?_ne_conflict : c.won? ≠ some (.leaseConflict kind) := by
  cases hm : c.mutation? with
  | some m => simp [won?, hm]
  | none => cases hp : c.purpose <;> simp [won?, hm, hp, Purpose.won?]

end Call

/-- What a refusal is counted as. -/
lemma Purpose.lost?_eq_some_iff {p : Purpose} {c : Counter} : p.lost? = some c ↔
    ∃ kind, c = .leaseConflict kind ∧ ∃ id holder, p = .acquire ⟨kind, id⟩ holder ∨
      p = .release ⟨kind, id⟩ holder ∨ p = .write ⟨kind, id⟩ holder := by
  cases p with
  | breakLease r => simp [lost?]
  | other => simp [lost?]
  | _ r holder => cases r; simp [lost?, eq_comm]

namespace Entry

variable {x : Entry} {c : Counter}

/-- What is counted of a call. -/
def counted (x : Entry) : List Counter := tally x.call.won? x.call.purpose.lost? x.answer

lemma events_after (x : Entry) :
    x.after.counters.events = x.counted ++ x.before.counters.events :=
  x.call.tallies_act x.plane x.before

/-- What is counted of a call that succeeds. -/
lemma counts_of_ok {a : Answer} (h : x.answer = .ok a) : x.Counts c ↔ x.call.won? = some c := by
  have hsucceeds : x.Succeeds := ⟨a, h⟩
  cases c with
  | leaseAcquired kind => simp [Counts, Acquires, hsucceeds, Call.won?_eq_acquired]
  | leaseConflict kind => simp [Counts, IsRefused, h, Call.won?_ne_conflict]
  | mutation kind op => simp [Counts, Mutates, hsucceeds, Call.won?_eq_mutation]

/-- What is counted of a call that fails. -/
lemma counts_of_error {e : StoreError} (h : x.answer = .error e) :
    x.Counts c ↔ e.isLeaseConflict = true ∧ x.call.purpose.lost? = some c := by
  have hfails : ¬ x.Succeeds := fun ⟨a, ha⟩ => by cases h.symm.trans ha
  cases c with
  | leaseConflict kind =>
      simp only [Counts, IsRefused, h, Purpose.lost?_eq_some_iff]
      simp [and_comm]
  | leaseAcquired kind => simp [Counts, Acquires, hfails, Purpose.lost?_eq_some_iff]
  | mutation kind op => simp [Counts, Mutates, hfails, Purpose.lost?_eq_some_iff]

/-- A counter counts a call if it is among what is counted of it. -/
lemma counts_iff (x : Entry) (c : Counter) : x.Counts c ↔ c ∈ x.counted := by
  cases h : x.answer with
  | ok a => rw [counts_of_ok h, counted, h, tally, Option.mem_toList]
  | error e =>
      rw [counts_of_error h, counted, h, tally]
      cases e.isLeaseConflict <;> simp

instance (x : Entry) (c : Counter) : Decidable (x.Counts c) :=
  decidable_of_iff _ (x.counts_iff c).symm

theorem counter_after (x : Entry) (c : Counter) :
    x.after.counters.get c = x.before.counters.get c + if x.Counts c then 1 else 0 := by
  have hone : x.counted.count c = if x.Counts c then 1 else 0 :=
    (nodup_tally _ _ _).count.trans (if_congr (x.counts_iff c).symm rfl rfl)
  rw [Counters.get, x.events_after, List.count_append, hone, Counters.get, Nat.add_comm]

end Entry

/-! ### Counting many calls -/

/-- Over calls that lead from one backend to another every counter goes up by the number of calls
that it counts. -/
lemma Chained.counters {b₀ b : Backend} {past : List Entry} (h : Chained b₀ past b) (c : Counter) :
    b.counters.get c = b₀.counters.get c + past.countP fun x => x.Counts c := by
  induction past generalizing b with
  | nil =>
      cases h
      rfl
  | cons x rest ih =>
      obtain ⟨rfl, h⟩ := h
      rw [x.counter_after, ih h, List.countP_cons]
      simp only [decide_eq_true_eq, Nat.add_assoc]

namespace History

variable {h h' : History} {b₀ : Backend}

/-- The calls of a move, the latest first. -/
def made (h : History) : Move → List Entry
  | .step c s => c.entries s h.backend
  | .within c k l => [⟨c, .within k l, h.backend⟩]
  | _ => []

/-- All calls of some moves, the latest first, those included that were undone. -/
def calls : List Move → History → List Entry
  | [], _ => []
  | m :: rest, h =>
    match h.next m with
    | some h' => calls rest h' ++ h.made m
    | none => []

/-- A move counts its calls. -/
lemma counters_of_next {m : Move} (hm : h.next m = some h') (c : Counter) :
    h'.backend.counters.get c =
      h.backend.counters.get c + (h.made m).countP fun x => x.Counts c := by
  cases m with
  | step p s =>
      rw [next] at hm
      split at hm <;> cases hm
      exact (chained_entries p s h.backend).counters c
  | within p k l =>
      rw [next] at hm
      split at hm <;> cases hm
      exact (Chained.single rfl).counters c
  | rollback =>
      obtain ⟨s, -, rfl⟩ := Option.map_eq_some_iff.mp hm
      rfl
  | _ =>
      rw [next] at hm
      split at hm <;> cases hm
      rfl

/-- Every counter has gone up by the number of calls that it counts. -/
theorem counters_of_run {moves : List Move} (hr : run moves h = some h') (c : Counter) :
    h'.backend.counters.get c =
      h.backend.counters.get c + (calls moves h).countP fun x => x.Counts c := by
  induction moves generalizing h with
  | nil =>
      cases hr
      rfl
  | cons m rest ih =>
      obtain ⟨h₁, hm, hr⟩ := Option.bind_eq_some_iff.mp hr
      rw [ih hr, counters_of_next hm, calls, hm, List.countP_append]
      omega

end History

end LeasedStore
