/-
What is counted of actions, by their outcomes.

An action counts once at most: if it succeeds, what it was after, and if it is refused for want of a
lease, the conflict.  All other failures count nothing.

* `tally`: what is counted of an outcome;
* `Action.Tallies`: does an action count what its outcome says?
* `LeaseManager.tallies_acquireIn`, `tallies_consumeIn`, `EntityStore.tallies_create`,
  `tallies_guarded`: those do that count at all.
-/
import LeasedStore.Proofs.Store.Single

namespace LeasedStore

/-- What is counted of an outcome: one counter of success, and one of refusals for want of a
lease. -/
def tally {α : Type} (won lost : Option Counter) : Except StoreError α → List Counter
  | .ok _ => won.toList
  | .error e => if e.isLeaseConflict then lost.toList else []

/-- An outcome is counted once at most. -/
lemma nodup_tally {α : Type} (won lost : Option Counter) (o : Except StoreError α) :
    (tally won lost o).Nodup := by
  cases o with
  | ok a => cases won <;> simp [tally]
  | error e =>
      rw [tally]
      split
      · cases lost <;> simp
      · exact .nil

namespace Action

variable {α β : Type} {a : Action α} {won lost : Option Counter}

/-- Does an action count what its outcome says, and nothing else? -/
def Tallies (a : Action α) (won lost : Option Counter) : Prop :=
  ∀ b, (a.runOn b).2.counters.events = tally won lost (a.runOn b).1 ++ b.counters.events

lemma tallies_read (r : Reading α) : (read r).Tallies none none := by
  intro b
  rw [runOn_read]
  cases r b <;> simp [tally]

/-- Changes of the database count nothing. -/
lemma tallies_change (f : Database → Except DatabaseError (α × Database)) :
    (change f).Tallies none none := by
  intro b
  cases h : f b.database with
  | error e =>
      rw [runOn_change_of_error h]
      rfl
  | ok p =>
      rw [runOn_change_of_ok h]
      rfl

lemma Tallies.bind_pure (h : a.Tallies won lost) (f : α → β) :
    (a >>= fun x => pure (f x)).Tallies won lost := by
  intro b
  rw [runOn_bind_pure, h b]
  cases (a.runOn b).1 <;> rfl

/-- An action on a connection of its own counts nothing more. -/
lemma Tallies.connect_bind (h : a.Tallies won lost) :
    (connect >>= fun _ => a).Tallies won lost := by
  intro b
  cases ho : b.isOpen with
  | false =>
      rw [runOn_connect_bind_of_closed ho]
      rfl
  | true =>
      rw [runOn_connect_bind_of_open ho]
      exact h b

/-- A transaction counts what its work counts, whether or not its effects on the database last. -/
lemma Tallies.transaction (h : a.Tallies won lost) : (transaction a).Tallies won lost := by
  intro b
  cases ho : b.isOpen with
  | false =>
      rw [runOn_transaction_of_closed ho]
      rfl
  | true =>
      have hb := h b
      rw [runOn_transaction_of_open ho]
      rcases hr : a.runOn b with ⟨e | x, b'⟩ <;> rw [hr] at hb <;> exact hb

/-- An action that counts no success, and then one that counts nothing and is never refused for want
of a lease. -/
lemma Tallies.bind_uncounted {f : α → Action β} (h : a.Tallies none lost)
    (hf : ∀ x b, ((f x).runOn b).2.counters = b.counters ∧
      ∀ e, ((f x).runOn b).1 = .error e → e.isLeaseConflict = false) :
    (a >>= f).Tallies none lost := by
  intro b
  have hb := h b
  rw [runOn_bind]
  rcases hr : a.runOn b with ⟨e | x, b'⟩ <;> rw [hr] at hb
  · exact hb
  · obtain ⟨hcounters, herror⟩ := hf x b'
    dsimp only
    rw [hcounters, hb]
    cases hx : ((f x).runOn b').1 with
    | ok y => rfl
    | error e => simp [tally, herror e hx]

/-- An action that counts no success, and a count of its success. -/
lemma Tallies.bind_bump (h : a.Tallies none lost) (c : Counter) :
    (a >>= fun _ => bump c).Tallies (some c) lost := by
  intro b
  have hb := h b
  rw [runOn_bind]
  rcases hr : a.runOn b with ⟨e | x, b'⟩ <;> rw [hr] at hb
  · exact hb
  · exact congrArg (List.cons c) hb

end Action

namespace LeaseManager

/-- Taking a lease counts. -/
lemma tallies_acquireIn (m : LeaseManager) (id holder : String) (d : Int64) :
    (m.acquireIn id holder d).Tallies (some (.leaseAcquired m.resourceKind))
      (some (.leaseConflict m.resourceKind)) := by
  intro b
  cases hl : b.database.leases with
  | none =>
      rw [runOn_acquireIn_of_none hl]
      rfl
  | some t =>
      cases ha : t.acquire (m.request id holder b.clock.now d) with
      | none =>
          rw [runOn_acquireIn_of_refused hl ha]
          rfl
      | some t' =>
          rw [runOn_acquireIn_of_granted hl ha]
          rfl

/-- Giving a lease up counts only if it is refused. -/
lemma tallies_consumeIn (m : LeaseManager) (id holder : String) :
    (m.consumeIn id holder).Tallies none (some (.leaseConflict m.resourceKind)) := by
  intro b
  cases hl : b.database.leases with
  | none =>
      rw [runOn_consumeIn_of_none hl]
      rfl
  | some t =>
      cases hc : t.consume b.clock.now (m.resource id) holder with
      | none =>
          rw [runOn_consumeIn_of_refused hl hc]
          rfl
      | some t' =>
          rw [runOn_consumeIn_of_held hl hc]
          rfl

end LeaseManager

namespace EntityStore

variable {α : Type} [Entity α]

/-- A new entity counts if it is put in. -/
lemma tallies_create (s : EntityStore α) (e : α) :
    (s.create e).Tallies (some (.mutation s.kind .create)) none := by
  refine Action.Tallies.connect_bind fun b => ?_
  rw [Action.runOn_bind, Action.runOn_attempt]
  cases hi : s.insertRow e b.database with
  | ok p =>
      rw [Action.runOn_change_of_ok hi]
      rfl
  | error report =>
      rw [Action.runOn_change_of_error hi]
      dsimp only
      split <;> rfl

/-- A write under a lease counts if it goes through, or if the lease is refused. -/
lemma tallies_guarded (s : EntityStore α) (op : Mutation) (id holder : String)
    (write : Table → Except DatabaseError (Option Table)) :
    (s.guarded op id holder write).Tallies (some (.mutation s.kind op))
      (some (.leaseConflict s.kind)) := by
  have hconsume : (s.leases.consumeIn id holder).Tallies none (some (.leaseConflict s.kind)) :=
    LeaseManager.tallies_consumeIn _ _ _
  refine (Action.Tallies.transaction (hconsume.bind_uncounted fun _ b => ?_)).bind_bump _
  cases hw : s.writeTable write b.database with
  | error report =>
      rw [Action.runOn_bind_of_error (Action.runOn_change_of_error hw)]
      exact ⟨rfl, fun e he => by cases he; rfl⟩
  | ok p =>
      obtain ⟨wrote, db⟩ := p
      rw [Action.runOn_bind_of_ok (Action.runOn_change_of_ok hw)]
      cases wrote with
      | true => exact ⟨rfl, nofun⟩
      | false => exact ⟨rfl, fun e he => by cases he; rfl⟩

end EntityStore

end LeasedStore
