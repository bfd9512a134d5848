/-
What one call does to the lease of a resource.

A call that fails changes no table.  One that succeeds has one of four effects on a resource: its
lease is taken, given up or broken, or left as it is.

* `Entry.setting_after`, `Entry.isOpen_after`: what calls do not change;
* `Entry.database_of_error`: calls that fail change no table;
* `Entry.Effect`, `Entry.effect`: the four effects, and that there are no others.
-/
import LeasedStore.Proofs.History.Basic

namespace LeasedStore

/-! ### Calls that fail -/

namespace LeaseManager

/-- A call of a lease manager keeps the setting. -/
lemma keepsSetting_step (m : LeaseManager) (l : LeaseStep) : (m.step l).KeepsSetting := by
  have hc : Action.connect.KeepsSetting := Action.keepsSetting_read _
  cases l with
  | acquire id holder =>
      exact (hc.bind fun _ => m.keepsSetting_acquireIn _ _ _).bind fun _ =>
        Action.keepsSetting_pure _
  | acquireFor id holder d =>
      exact (hc.bind fun _ => m.keepsSetting_acquireIn _ _ _).bind fun _ =>
        Action.keepsSetting_pure _
  | release id holder =>
      exact (hc.bind fun _ => m.keepsSetting_consumeIn _ _).bind fun _ => Action.keepsSetting_pure _
  | find id => exact (Action.keepsSetting_read _).bind fun _ => Action.keepsSetting_pure _
  | breakLease id =>
      exact (hc.bind fun _ => Action.keepsSetting_change _).bind fun _ => Action.keepsSetting_pure _

/-- A call of a lease manager inside a transaction keeps the setting. -/
lemma keepsSetting_call (m : LeaseManager) (l : LeaseCall) : (m.call l).KeepsSetting := by
  cases l with
  | acquire id holder d =>
      exact (m.keepsSetting_acquireIn _ _ _).bind fun _ => Action.keepsSetting_pure _
  | consume id holder =>
      exact (m.keepsSetting_consumeIn _ _).bind fun _ => Action.keepsSetting_pure _
  | describe id => exact (Action.keepsSetting_read _).bind fun _ => Action.keepsSetting_pure _

end LeaseManager

/-- A call of a store keeps the setting. -/
lemma EntityStore.keepsSetting_step {α : Type} [Entity α] (s : EntityStore α) (call : StoreStep α) :
    (s.step call).KeepsSetting := by
  cases call with
  | create e => exact (s.keepsSetting_create e).bind fun _ => Action.keepsSetting_pure _
  | update e holder => exact
      (s.keepsSetting_guarded _ _ _ _).bind fun _ => Action.keepsSetting_pure _
  | delete id holder => exact
      (s.keepsSetting_guarded _ _ _ _).bind fun _ => Action.keepsSetting_pure _
  | lease l => exact (s.leases.keepsSetting_step l).bind fun _ => Action.keepsSetting_pure _
  | _ => exact (Action.keepsSetting_read _).bind fun _ => Action.keepsSetting_pure _

/-- Is the call a move of the clock? -/
def Call.isClockMove : Call → Bool
  | advance _ | setClock _ => true
  | _ => false

namespace Entry

/-- A call that is no move of the clock keeps the setting. -/
lemma setting_after (x : Entry) (hm : x.call.isClockMove = false) :
    x.after.setting = x.before.setting := by
  obtain ⟨c, call, b⟩ := x
  suffices h : (call.act c).KeepsSetting from h b
  cases call with
  | store k s => exact ((c.store k).keepsSetting_step s).bind fun _ => Action.keepsSetting_pure _
  | candidates k max filter =>
      exact ((Action.keepsSetting_read _).bind fun _ => Action.keepsSetting_pure _).bind fun _ =>
        Action.keepsSetting_pure _
  | within k l =>
      have hc : Action.connect.KeepsSetting := Action.keepsSetting_read _
      exact hc.bind fun _ => ((c.store k).leases.keepsSetting_call l).bind fun _ =>
        Action.keepsSetting_pure _
  | _ => cases hm

/-- A call keeps the backend open. -/
lemma isOpen_after (x : Entry) : x.after.isOpen = x.before.isOpen := by
  cases hm : x.call.isClockMove with
  | false => exact congrArg Prod.fst (x.setting_after hm)
  | true =>
      obtain ⟨c, call, b⟩ := x
      cases call with
      | advance d => rfl
      | setClock millis => rfl
      | _ => cases hm

end Entry

/-- A call of a lease manager that fails changes no table. -/
lemma LeaseManager.database_of_step_error {m : LeaseManager} {l : LeaseStep} {b b' : Backend}
    {e : StoreError} (h : (m.step l).runOn b = (.error e, b')) : b'.database = b.database := by
  cases l with
  | acquire id holder =>
      exact Action.database_of_connect_bind_error database_of_acquireIn_error
        (Action.bind_pure_eq_error h)
  | acquireFor id holder d =>
      exact Action.database_of_connect_bind_error database_of_acquireIn_error
        (Action.bind_pure_eq_error h)
  | release id holder =>
      exact Action.database_of_connect_bind_error database_of_consumeIn_error
        (Action.bind_pure_eq_error h)
  | find id => rw [Action.eq_of_read (Action.bind_pure_eq_error h)]
  | breakLease id => exact database_of_breakLease_error (Action.bind_pure_eq_error h)

/-- A call of a lease manager inside a transaction that fails changes no table. -/
lemma LeaseManager.database_of_call_error {m : LeaseManager} {l : LeaseCall} {b b' : Backend}
    {e : StoreError} (h : (m.call l).runOn b = (.error e, b')) : b'.database = b.database := by
  cases l with
  | acquire id holder d => exact database_of_acquireIn_error (Action.bind_pure_eq_error h)
  | consume id holder => exact database_of_consumeIn_error (Action.bind_pure_eq_error h)
  | describe id => rw [Action.eq_of_read (Action.bind_pure_eq_error h)]

/-- A call of a store that fails changes no table. -/
lemma EntityStore.database_of_step_error {α : Type} [Entity α] {s : EntityStore α}
    {call : StoreStep α} {b b' : Backend} {e : StoreError}
    (h : (s.step call).runOn b = (.error e, b')) : b'.database = b.database := by
  cases call with
  | create e => exact database_of_create_error (Action.bind_pure_eq_error h)
  | update e holder => exact database_of_guarded_error (Action.bind_pure_eq_error h)
  | delete id holder => exact database_of_guarded_error (Action.bind_pure_eq_error h)
  | lease l => exact LeaseManager.database_of_step_error (Action.bind_pure_eq_error h)
  | _ => rw [Action.eq_of_read (Action.bind_pure_eq_error h)]

namespace Entry

lemma outcome_eq (x : Entry) : (x.call.act x.plane).runOn x.before = (x.answer, x.after) := rfl

/-- A call that fails changes no table. -/
lemma database_of_error {x : Entry} {e : StoreError} (h : x.answer = .error e) :
    x.after.database = x.before.database := by
  have ho := x.outcome_eq
  rw [h] at ho
  obtain ⟨c, call, b⟩ := x
  cases call with
  | store k s => exact EntityStore.database_of_step_error (Action.bind_pure_eq_error ho)
  | candidates k max filter =>
      exact congrArg Backend.database
        (Action.eq_of_read (Action.bind_pure_eq_error (Action.bind_pure_eq_error ho)))
  | within k l =>
      exact Action.database_of_connect_bind_error
        (fun h => LeaseManager.database_of_call_error (Action.bind_pure_eq_error h)) ho
  | advance d => cases ho
  | setClock millis => cases ho

/-! ### Calls that succeed -/

/-- What a call does to the lease of a resource. -/
inductive Effect (x : Entry) (r : Resource) : Prop where
  /-- The lease is taken or renewed: from nobody, from its holder, or once it is over. -/
  | granted (l : Lease) (grants : x.Grants l) (resource : l.resource = r)
      (leasedAt : l.leasedAt = x.before.clock.now)
      (free : ∀ current, x.before.database.lease? r = some current →
        current.leasedBy = l.leasedBy ∨ ¬ current.IsActive x.before.clock.now)
      (after : x.after.database.lease? r = some l)
  /-- The lease, which is active, is given up by its holder, maybe by a write. -/
  | givenUp (current : Lease) (before : x.before.database.lease? r = some current)
      (active : current.IsActive x.before.clock.now)
      (holder : x.Releases r current.leasedBy ∨ x.Writes r current.leasedBy)
      (after : x.after.database.lease? r = none)
  | broken (breaks : x.Breaks r) (after : x.after.database.lease? r = none)
  | untouched (touches : ¬ x.Touches r)
      (after : x.after.database.lease? r = x.before.database.lease? r)

lemma Effect.of_other {x : Entry} (hp : x.call.purpose = .other)
    (ha : ∀ r, x.after.database.lease? r = x.before.database.lease? r) (r : Resource) :
    x.Effect r := by
  refine .untouched ?_ (ha r)
  rintro (⟨holder, h | h | h⟩ | h) <;> cases hp.symm.trans h.1

/-- A lease that is taken leaves other resources alone. -/
lemma Effect.of_acquire {x : Entry} {l : Lease} (hg : x.Grants l)
    (hat : l.leasedAt = x.before.clock.now)
    (hfree : ∀ current, x.before.database.lease? l.resource = some current →
      current.leasedBy = l.leasedBy ∨ ¬ current.IsActive x.before.clock.now)
    (ha : ∀ r, x.after.database.lease? r =
      if l.resource = r then some l else x.before.database.lease? r) (r : Resource) :
    x.Effect r := by
  by_cases hr : l.resource = r
  · exact .granted l hg hr hat (hr ▸ hfree) (by rw [ha, if_pos hr])
  · refine .untouched ?_ (by rw [ha, if_neg hr])
    rintro (⟨holder, h | h | h⟩ | h) <;> cases hg.1.symm.trans h.1
    exact hr rfl

/-- A lease that is given up leaves other resources alone. -/
lemma Effect.of_giveUp {x : Entry} {r₀ : Resource} {holder : String}
    (hg : x.Releases r₀ holder ∨ x.Writes r₀ holder)
    (hheld : ∃ current, x.before.database.lease? r₀ = some current ∧
      current.IsActive x.before.clock.now ∧ current.leasedBy = holder)
    (ha : ∀ r, x.after.database.lease? r =
      if r₀ = r then none else x.before.database.lease? r) (r : Resource) :
    x.Effect r := by
  by_cases hr : r₀ = r
  · subst hr
    obtain ⟨current, hc, hactive, rfl⟩ := hheld
    exact .givenUp current hc hactive hg (by rw [ha, if_pos rfl])
  · refine .untouched ?_ (by rw [ha, if_neg hr])
    rintro (⟨holder', h | h | h⟩ | h) <;> rcases hg with hg | hg <;>
      cases hg.1.symm.trans h.1 <;> exact hr rfl

/-- A lease that is broken leaves other resources alone. -/
lemma Effect.of_break {x : Entry} {r₀ : Resource} (hb : x.Breaks r₀)
    (ha : ∀ r, x.after.database.lease? r =
      if r₀ = r then none else x.before.database.lease? r) (r : Resource) :
    x.Effect r := by
  by_cases hr : r₀ = r
  · subst hr
    exact .broken hb (by rw [ha, if_pos rfl])
  · refine .untouched ?_ (by rw [ha, if_neg hr])
    rintro (⟨holder, h | h | h⟩ | h) <;> cases hb.1.symm.trans h.1
    exact hr rfl

lemma Effect.of_error {x : Entry} {e : StoreError} (h : x.answer = .error e) (r : Resource) :
    x.Effect r := by
  refine .untouched ?_ (by rw [database_of_error h])
  rintro (⟨holder, ht | ht | ht⟩ | ht) <;> obtain ⟨-, a, ha⟩ := ht <;> cases h.symm.trans ha

/-- The effect of a call that is answered by a lease manager. -/
lemma effect_lease {c : ControlPlane} {k : StoreKind} {l : LeaseStep} {b : Backend} {x : Entry}
    (hx : x = ⟨c, .store k (.lease l), b⟩) {a : LeaseAnswer}
    (ha : ((c.store k).leases.step l).runOn b = (.ok a, x.after))
    (hans : x.answer = .ok (.store k (.lease a))) (r : Resource) : x.Effect r := by
  have hsucc : x.Succeeds := ⟨_, hans⟩
  subst hx
  cases l with
  | acquire id holder =>
      obtain ⟨l, hl, rfl⟩ := Action.bind_pure_eq_ok ha
      obtain ⟨-, hl⟩ := Action.connect_bind_eq_ok.mp hl
      obtain ⟨hres, rfl, hat⟩ := LeaseManager.request_of_acquireIn hl
      refine Effect.of_acquire ⟨?_, k, hans⟩ hat ?_ ?_ r
      · rw [hres]; rfl
      · rw [hres]; exact fun current hc => LeaseManager.free_of_acquireIn hl hc
      · rw [hres]; exact LeaseManager.lease?_of_acquireIn hl
  | acquireFor id holder d =>
      obtain ⟨l, hl, rfl⟩ := Action.bind_pure_eq_ok ha
      obtain ⟨-, hl⟩ := Action.connect_bind_eq_ok.mp hl
      obtain ⟨hres, rfl, hat⟩ := LeaseManager.request_of_acquireIn hl
      refine Effect.of_acquire ⟨?_, k, hans⟩ hat ?_ ?_ r
      · rw [hres]; rfl
      · rw [hres]; exact fun current hc => LeaseManager.free_of_acquireIn hl hc
      · rw [hres]; exact LeaseManager.lease?_of_acquireIn hl
  | release id holder =>
      obtain ⟨u, hu, rfl⟩ := Action.bind_pure_eq_ok ha
      obtain ⟨-, hu⟩ := Action.connect_bind_eq_ok.mp hu
      exact Effect.of_giveUp (.inl ⟨rfl, hsucc⟩) (LeaseManager.held_of_consumeIn hu)
        (LeaseManager.lease?_of_consumeIn hu) r
  | find id =>
      obtain ⟨l, hl, rfl⟩ := Action.bind_pure_eq_ok ha
      exact Effect.of_other rfl (fun r => by rw [Action.eq_of_read hl]) r
  | breakLease id =>
      obtain ⟨wasThere, hb, rfl⟩ := Action.bind_pure_eq_ok ha
      exact Effect.of_break ⟨rfl, hsucc⟩ (LeaseManager.lease?_of_breakLease hb) r

/-- The effect of a call inside a transaction. -/
lemma effect_within {c : ControlPlane} {k : StoreKind} {l : LeaseCall} {b : Backend} {x : Entry}
    (hx : x = ⟨c, .within k l, b⟩) {a : LeaseAnswer}
    (ha : ((c.store k).leases.call l).runOn b = (.ok a, x.after))
    (hans : x.answer = .ok (.store k (.lease a))) (r : Resource) : x.Effect r := by
  have hsucc : x.Succeeds := ⟨_, hans⟩
  subst hx
  cases l with
  | acquire id holder d =>
      obtain ⟨l, hl, rfl⟩ := Action.bind_pure_eq_ok ha
      obtain ⟨hres, rfl, hat⟩ := LeaseManager.request_of_acquireIn hl
      refine Effect.of_acquire ⟨?_, k, hans⟩ hat ?_ ?_ r
      · rw [hres]; rfl
      · rw [hres]; exact fun current hc => LeaseManager.free_of_acquireIn hl hc
      · rw [hres]; exact LeaseManager.lease?_of_acquireIn hl
  | consume id holder =>
      obtain ⟨u, hu, rfl⟩ := Action.bind_pure_eq_ok ha
      exact Effect.of_giveUp (.inl ⟨rfl, hsucc⟩) (LeaseManager.held_of_consumeIn hu)
        (LeaseManager.lease?_of_consumeIn hu) r
  | describe id =>
      obtain ⟨l, hl, rfl⟩ := Action.bind_pure_eq_ok ha
      exact Effect.of_other rfl (fun r => by rw [Action.eq_of_read hl]) r

/-- The effect of a call of a store. -/
lemma effect_store {c : ControlPlane} {k : StoreKind} {s : StoreStep k.Record} {b : Backend}
    {x : Entry} (hx : x = ⟨c, .store k s, b⟩) {a : StoreAnswer k.Record}
    (ha : ((c.store k).step s).runOn b = (.ok a, x.after))
    (hans : x.answer = .ok (.store k a)) (r : Resource) : x.Effect r := by
  have hsucc : x.Succeeds := ⟨_, hans⟩
  cases s with
  | create e =>
      subst hx
      obtain ⟨u, hu, rfl⟩ := Action.bind_pure_eq_ok ha
      obtain ⟨-, t, t', -, -, hdb⟩ := EntityStore.create_eq_ok hu
      exact Effect.of_other rfl (fun r => by rw [hdb]; rfl) r
  | update e holder =>
      subst hx
      obtain ⟨u, hu, rfl⟩ := Action.bind_pure_eq_ok ha
      exact Effect.of_giveUp (.inr ⟨rfl, hsucc⟩) (EntityStore.held_of_guarded hu)
        (EntityStore.lease?_of_guarded hu) r
  | delete id holder =>
      subst hx
      obtain ⟨u, hu, rfl⟩ := Action.bind_pure_eq_ok ha
      exact Effect.of_giveUp (.inr ⟨rfl, hsucc⟩) (EntityStore.held_of_guarded hu)
        (EntityStore.lease?_of_guarded hu) r
  | lease l =>
      obtain ⟨answer, hl, rfl⟩ := Action.bind_pure_eq_ok ha
      exact effect_lease hx hl hans r
  -- the calls that are left read and do nothing else
  | _ =>
      subst hx
      obtain ⟨y, hy, -⟩ := Action.bind_pure_eq_ok ha
      exact Effect.of_other rfl (fun r => by rw [Action.eq_of_read hy]) r

/-- Every call has one of the four effects on the lease of a resource. -/
theorem effect (x : Entry) (r : Resource) : x.Effect r := by
  cases hans : x.answer with
  | error e => exact Effect.of_error hans r
  | ok a =>
      have ho := x.outcome_eq
      rw [hans] at ho
      obtain ⟨c, call, b⟩ := x
      cases call with
      | store k s =>
          obtain ⟨a, ha, rfl⟩ := Action.bind_pure_eq_ok ho
          exact effect_store rfl ha hans r
      | candidates k max filter =>
          -- the store reads the candidates, and the answer keeps no more than their ids
          obtain ⟨y, hy, -⟩ := Action.bind_pure_eq_ok ho
          obtain ⟨es, hes, -⟩ := Action.bind_pure_eq_ok hy
          exact Effect.of_other rfl (fun r => by rw [Action.eq_of_read hes]) r
      | within k l =>
          obtain ⟨-, ho⟩ := Action.connect_bind_eq_ok.mp ho
          obtain ⟨a, ha, rfl⟩ := Action.bind_pure_eq_ok ho
          exact effect_within rfl ha hans r
      | advance d => exact Effect.of_other rfl (fun _ => rfl) r
      | setClock millis => exact Effect.of_other rfl (fun _ => rfl) r

end Entry

end LeasedStore
