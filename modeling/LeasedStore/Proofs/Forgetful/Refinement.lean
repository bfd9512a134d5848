/-
Leases that are over cannot be observed.

Every call of the stores is put together from acts that come to the same as those of the machine
that forgets leases as soon as they are over.  So the stores answer what it answers, and what rows
there are of leases that are over makes no difference.

* `Forgetful.simulates_leaseStep`, `simulates_storeStep`, `simulates_statefulStep`: all calls;
* `Forgetful.agrees_step`: every step, as long as the clock does not go back;
* `Forgetful.answers_of_represents`: all steps of a run;
* `Forgetful.answers_of_empty`: from an empty table of leases on, the stores answer what the machine
  answers, and from there on they answer alike whatever rows there are of leases that are over.
-/
import LeasedStore.Proofs.Forgetful.Simulation

namespace LeasedStore

namespace Forgetful

variable {m : Forgetful} {b b' : Backend}

/-- An act whose result is only put into other words, the same in which the answer is masked. -/
lemma Simulates.map_masked {α β : Type} {f : Act α} {a : Action α} (h : Simulates f a) (g : α → β)
    {mask : β → β} (hmask : ∀ x, mask (g x) = g x) :
    Simulates (f >>= fun x => Pure.pure (g x))
      ((a >>= fun x => Pure.pure (g x)) >>= fun y => Pure.pure (mask y)) := by
  rw [bind_assoc]
  refine h.bind fun x => ?_
  rw [pure_bind, hmask]
  exact .pure _

/-! ### Calls of a lease manager -/

lemma simulates_acquireFor (lm : LeaseManager) (id holder : String) (d : Int64) :
    Simulates (acquireFor lm id holder d) (Action.connect >>= fun _ => lm.acquireIn id holder d) :=
  Simulates.connect.bind fun _ => simulates_acquireIn lm id holder d

lemma simulates_release (lm : LeaseManager) (id holder : String) :
    Simulates (release lm id holder) (lm.release id holder) :=
  Simulates.connect.bind fun _ => simulates_consumeIn lm id holder

/-- A lease looked up. -/
lemma simulates_find (lm : LeaseManager) (id : String) :
    Simulates (find lm id) (Action.read (lm.find id)) := by
  intro m b h
  obtain ⟨t, ht⟩ := h.hasLeases
  cases ho : b.isOpen with
  | false =>
      have ha : lm.find id b = .error (.database .poolClosed) :=
        Reading.bind_of_error (Reading.connect_of_closed ho) _
      exact .of_eq (Act.runOn_connect_bind_of_closed (h.isOpen.symm.trans ho) _)
        (congrArg (·, b) ha) h rfl
  | true =>
      have ha : lm.find id b = .ok (m.leases.find? (lm.resource id)) :=
        (LeaseManager.find_of_open ho ht).trans (congrArg Except.ok (h.lease _))
      exact .of_eq (Act.runOn_connect_bind_of_open (h.isOpen.symm.trans ho) _)
        (congrArg (·, b) ha) h rfl

/-- A lease broken; whether it had a row is not told. -/
lemma simulates_breakLease (lm : LeaseManager) (id : String) :
    Simulates (breakLease lm id) (lm.breakLease id >>= fun _ => pure ()) := by
  intro m b h
  obtain ⟨t, ht⟩ := h.hasLeases
  cases ho : b.isOpen with
  | false =>
      have ha : (lm.breakLease id).runOn b = (.error (.database .poolClosed), b) :=
        Action.runOn_connect_bind_of_closed ho _
      exact .of_eq (Act.runOn_connect_bind_of_closed (h.isOpen.symm.trans ho) _)
        (Action.runOn_bind_of_error ha _) h rfl
  | true =>
      have ha : (lm.breakLease id).runOn b = _ := LeaseManager.runOn_breakLease_of_open ho ht
      have hkeeps := LeaseManager.keepsEntities_of_breakLease ha
      exact .of_eq (Act.runOn_connect_bind_of_open (h.isOpen.symm.trans ho) _)
        (Action.runOn_bind_of_ok ha _)
        (h.forget hkeeps (LeaseManager.lease?_of_breakLease ha)) hkeeps.setting

/-- A call of a lease manager. -/
lemma simulates_leaseStep (lm : LeaseManager) (l : LeaseStep) :
    Simulates (leaseStep lm l) (lm.step l >>= fun a => pure a.masked) := by
  cases l with
  | acquire id holder => exact (simulates_acquireFor lm id holder _).map_masked _ fun _ => rfl
  | acquireFor id holder d => exact (simulates_acquireFor lm id holder _).map_masked _ fun _ => rfl
  | release id holder => exact (simulates_release lm id holder).map_masked _ fun _ => rfl
  | find id => exact (simulates_find lm id).map_masked LeaseAnswer.lease fun _ => rfl
  | breakLease id =>
      have h : Simulates (leaseStep lm (.breakLease id))
          ((lm.breakLease id >>= fun _ => pure ()) >>= fun _ => pure LeaseAnswer.done) :=
        (simulates_breakLease lm id).bind fun _ => .pure LeaseAnswer.done
      rw [bind_assoc] at h
      rw [LeaseManager.step, bind_assoc]
      exact h

/-! ### Calls of a store -/

section Stores

variable {α : Type}

/-- A new entity. -/
lemma simulates_create [Entity α] (s : EntityStore α) (e : α) :
    Simulates (create s e) (s.create e) := by
  refine Simulates.connect.bind fun _ =>
    (Simulates.change (onTables_insertRow s e)).attempt.bind fun r => ?_
  cases r with
  | ok u => exact .bump _
  | error report =>
      cases report with
      | database report =>
          dsimp only
          split <;> exact .throw _
      | _ => exact .throw _

/-- A write under a lease. -/
lemma simulates_write [Entity α] (s : EntityStore α) (op : Mutation) (id holder : String)
    (w : Table → Except DatabaseError (Option Table)) :
    Simulates (write s id holder w) (s.guarded op id holder w) := by
  have hwork : Simulates (write s id holder w) (Action.transaction do
      s.leases.consumeIn id holder
      if ← Action.change (s.writeTable w) then pure () else throw (.notFound id)) := by
    refine ((simulates_consumeIn s.leases id holder).bind fun _ =>
      (Simulates.change (onTables_writeTable s w)).bind fun wrote => ?_).transaction
    cases wrote with
    | true => exact .pure ()
    | false => exact .throw _
  have hcounted := hwork.bind fun _ => Simulates.bump (.mutation s.kind op)
  rwa [bind_pure] at hcounted

/-- A call of a store. -/
lemma simulates_storeStep [Entity α] (s : EntityStore α) (call : StoreStep α) :
    Simulates (storeStep s call) (s.step call >>= fun a => pure a.masked) := by
  cases call with
  | create e => exact (simulates_create s e).map_masked _ fun _ => rfl
  | find id => exact (Simulates.read (s.ignoresLeases_find id).isBlind).map_masked _ fun _ => rfl
  | update e holder => exact (simulates_write s _ _ holder _).map_masked _ fun _ => rfl
  | delete id holder => exact (simulates_write s _ id holder _).map_masked _ fun _ => rfl
  | query spec =>
      exact (Simulates.read (s.ignoresLeases_readAll spec).isBlind).map_masked _ fun _ => rfl
  | count filter =>
      exact (Simulates.read (s.ignoresLeases_count filter).isBlind).map_masked _ fun _ => rfl
  | findMatching id filter =>
      exact (Simulates.read (s.ignoresLeases_findMatching id filter).isBlind).map_masked
        _ fun _ => rfl
  | findFirst c =>
      exact (Simulates.read (s.ignoresLeases_findFirst c).isBlind).map_masked _ fun _ => rfl
  | lease l =>
      -- the answer of the manager is put into that of the store behind the masking, so the two are
      -- swapped
      have h : Simulates (storeStep s (.lease l))
          ((s.leases.step l >>= fun a => pure a.masked) >>= fun a => pure (StoreAnswer.lease a)) :=
        (simulates_leaseStep s.leases l).bind fun a => .pure (StoreAnswer.lease a)
      rw [bind_assoc] at h
      rw [EntityStore.step, bind_assoc]
      exact h

/-- A candidate claimed. -/
lemma simulates_claimOne [Entity α] (s : EntityStore α) (holder : String) (filter : List Criterion)
    (id : String) : Simulates (claimOne s holder filter id) (s.claimOne holder filter id) := by
  refine (simulates_acquireFor s.leases id holder s.leases.duration).attempt.bind fun r => ?_
  cases r with
  | error e =>
      dsimp only
      split
      · exact .pure none
      · exact .throw e
  | ok l =>
      refine (Simulates.read (s.ignoresLeases_findMatching id filter).isBlind).bind fun found => ?_
      cases found with
      | some e => exact .pure (some e)
      | none => exact (simulates_release s.leases id holder).bind fun _ => .pure none

/-- Candidates claimed, one after the other. -/
lemma simulates_claim [Entity α] (s : EntityStore α) (holder : String) (filter : List Criterion)
    (ids : List String) : Simulates (claim s holder filter ids) (s.claim holder filter ids) := by
  induction ids with
  | nil => exact .pure []
  | cons id rest ih =>
      exact (simulates_claimOne s holder filter id).bind fun _ => ih.bind fun _ => .pure _

variable [StatefulEntity α]

lemma simulates_nextNotLeased (s : EntityStore α) (holder : String) (max : UInt32)
    (filter : List Criterion) :
    Simulates (nextNotLeased s holder max filter) (s.nextNotLeased holder max filter) :=
  (Simulates.read (s.isBlind_unleasedCandidates max filter)).bind fun _ =>
    simulates_claim s holder filter _

/-- A change of state. -/
lemma simulates_transition (s : EntityStore α) (id : String)
    (c : StateChange (StatefulEntity.State α)) (holder : String) :
    Simulates (transition s id c holder) (s.transition id c holder) := by
  refine (Simulates.read (s.ignoresLeases_find id).isBlind).bind fun found => ?_
  cases found with
  | none => exact .pure none
  | some e =>
      exact (Simulates.read Reading.ignoresLeases_now.isBlind).bind fun now =>
        (simulates_write s _ _ holder _).bind fun _ => .pure _

/-- A call about states. -/
lemma simulates_statefulStep (s : EntityStore α) (call : StatefulStep α) :
    Simulates (statefulStep s call) (s.statefulStep call >>= fun a => pure a.masked) := by
  cases call with
  | candidates max filter =>
      exact (Simulates.read (s.isBlind_unleasedCandidates max filter)).map_masked _ fun _ => rfl
  | claim holder candidates filter =>
      exact (simulates_claim s holder filter candidates).map_masked _ fun _ => rfl
  | next holder max filter =>
      exact (simulates_nextNotLeased s holder max filter).map_masked _ fun _ => rfl
  | transition id c holder =>
      exact (simulates_transition s id c holder).map_masked _ fun _ => rfl

end Stores

/-! ### Steps -/

/-- A call through a control plane. -/
lemma simulates_call {k : StoreKind} {f : Act (StoreAnswer k.Record)}
    {a : Action (StoreAnswer k.Record)} (h : Simulates f (a >>= fun x => pure x.masked)) :
    Simulates (f >>= fun x => pure (Answer.store k x))
      ((a >>= fun x => pure (Answer.store k x)) >>= fun x => pure x.masked) := by
  have hcall : Simulates (f >>= fun x => pure (Answer.store k x))
      ((a >>= fun x => pure x.masked) >>= fun x => pure (Answer.store k x)) :=
    h.bind fun x => .pure (Answer.store k x)
  rw [bind_assoc] at hcall ⊢
  exact hcall

/-- Every step comes to the same, as long as the clock does not go back. -/
theorem agrees_step (h : m.Represents b) (c : ControlPlane) {s : Step}
    (hc : b.clock.now ≤ (s.clock b.clock).now) :
    ((c.step s).runOn b).1.map Answer.masked = ((step c s).runOn m).1 ∧
      ((step c s).runOn m).2.Represents ((c.step s).runOn b).2 ∧
      ((c.step s).runOn b).2.clock = s.clock b.clock := by
  -- a call leaves the clock alone, so for all of them the clock afterwards is the old one
  have hcall {f : Act Answer} {a : Action Answer}
      (hs : Simulates f (a >>= fun x => pure x.masked)) :
      (a.runOn b).1.map Answer.masked = (f.runOn m).1 ∧
        (f.runOn m).2.Represents (a.runOn b).2 ∧ (a.runOn b).2.clock = b.clock := by
    obtain ⟨hanswer, hrep, hsetting⟩ := hs m b h
    rw [Action.runOn_bind_pure] at hanswer hrep hsetting
    exact ⟨hanswer, hrep, congrArg Prod.snd hsetting⟩
  cases s with
  | store k s => exact hcall (simulates_call (simulates_storeStep (c.store k) s))
  | stateful k s => exact hcall (simulates_call (simulates_statefulStep (c.store k.kind) s))
  | advance d =>
      have hm : (step c (.advance d)).runOn m =
          (.ok (.instant (b.clock.advance d).now), m.setClock (b.clock.advance d)) := by
        rw [h.clock]
        rfl
      rw [hm]
      exact ⟨rfl, h.setClock hc, rfl⟩
  | setClock millis => exact ⟨rfl, h.setClock hc, rfl⟩

/-- Over a whole run, step by step. -/
theorem answers_of_represents {steps : List (ControlPlane × Step)} (h : m.Represents b)
    (hc : Step.IsForward steps b.clock) :
    Step.answers steps b = (run steps m).1 ∧
      (run steps m).2.Represents (Step.runAll steps b).2 := by
  induction steps generalizing m b with
  | nil => exact ⟨rfl, h⟩
  | cons x rest ih =>
      obtain ⟨c, s⟩ := x
      obtain ⟨hanswer, hrep, hclock⟩ := agrees_step h c hc.1
      obtain ⟨hanswers, hrep'⟩ := ih hrep (by rw [hclock]; exact hc.2)
      exact ⟨congrArg₂ List.cons hanswer hanswers, hrep'⟩

end Forgetful

/-! ### Leases that are over -/

namespace Backend

variable {b : Backend}

/-- The backend without the rows of leases that are over. -/
def sweep (b : Backend) : Backend :=
  { b with database := { b.database with
      leases := b.database.leases.map fun t => t.activeAt b.clock.now } }

/-- Nobody but the one who breaks a lease sees that rows of leases that are over were swept away. -/
lemma alike_sweep {t : LeaseTable} (h : b.database.leases = some t) : b.Alike b.sweep := by
  have hswept : b.sweep.database.leases = some (t.activeAt b.clock.now) :=
    congrArg (Option.map _) h
  refine ⟨rfl, rfl, rfl, ⟨⟨t, h⟩, _, hswept⟩, fun r => Option.ext fun l => ?_⟩
  rw [active?_of_leases hswept, active?_of_leases h, LeaseTable.active?_eq_some_iff,
    LeaseTable.find?_activeAt, LeaseTable.active?_eq_some_iff]
  exact and_iff_left_of_imp fun hl => hl.2

end Backend

namespace Forgetful

variable {b : Backend}

/-- Leases that are over cannot be observed.  From an empty table of leases on the stores answer
what the machine answers that forgets leases as soon as they are over; and any other backend with
the same tables of entities and the same active leases answers alike from then on, whatever rows it
has of leases that are over. -/
theorem answers_of_empty {before : List (ControlPlane × Step)}
    (hempty : b.database.leases = some .empty) (hc : Step.IsForward before b.clock) :
    Step.answers before b = (run before (start b)).1 ∧
      ∀ b', (Step.runAll before b).2.Alike b' → ∀ after, Step.IsForward after b'.clock →
        Step.answers after (Step.runAll before b).2 = Step.answers after b' := by
  obtain ⟨hanswers, hrep⟩ := answers_of_represents (.start hempty) hc
  refine ⟨hanswers, fun b' hb after hafter => ?_⟩
  have h := (answers_of_represents hrep (by rw [← hb.clock]; exact hafter)).1
  exact h.trans (answers_of_represents (hrep.of_alike hb) hafter).1.symm

/-- The lease of one holder is over and another one takes it, until it is over in turn: nobody sees
whether its row is swept away then. -/
theorem answers_of_sweep :
    let c : ControlPlane := ⟨"here", 1000, 10⟩
    let n : ContractNegotiation := .new "n" .consumer "p" "a" 0
    let t : Table := ⟨StoreKind.contractNegotiation.schema.tableDef, [Entity.row n], by decide⟩
    let b : Backend := ⟨⟨some .empty, [t]⟩, true, ⟨0⟩, .empty⟩
    let lease (l : LeaseStep) : ControlPlane × Step := (c, .store .contractNegotiation (.lease l))
    let before : List (ControlPlane × Step) :=
      [lease (.acquire "n" "a"), (c, .setClock 2000), lease (.acquire "n" "b"),
        lease (.release "n" "a"), (c, .setClock 5000)]
    let after : List (ControlPlane × Step) :=
      [lease (.release "n" "b"), (c, .stateful .contractNegotiation (.next "a" 5 [])),
        (c, .store .contractNegotiation (.update n "a"))]
    let reached := (Step.runAll before b).2
    reached.database.leases.map LeaseTable.rows =
        some [⟨"contract-negotiation", "n", "b", 2000, 1000⟩] ∧
      reached.clock.now = 5000 ∧
      Step.answers before b = (run before (start b)).1 ∧
      Step.answers after reached = Step.answers after reached.sweep := by
  intro c n t b lease before after reached
  have hc : Step.IsForward before b.clock := by
    simp [before, lease, Step.IsForward, Step.clock, b, Clock.set]
  have hrows : reached.database.leases.map LeaseTable.rows =
      some [⟨"contract-negotiation", "n", "b", 2000, 1000⟩] := by
    decide +kernel +zetaReduce
  obtain ⟨u, hu, -⟩ := Option.map_eq_some_iff.mp hrows
  obtain ⟨hanswers, hblind⟩ := answers_of_empty (b := b) rfl hc
  have hsweep : reached.Alike reached.sweep := Backend.alike_sweep (b := reached) hu
  refine ⟨hrows, by decide +kernel +zetaReduce, hanswers, hblind reached.sweep hsweep after ?_⟩
  simp [after, lease, Step.IsForward, Step.clock]

end Forgetful

end LeasedStore
