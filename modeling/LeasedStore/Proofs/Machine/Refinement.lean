/-
The stores answer what the machine answers.

A machine stands for a backend if every row is that of an entity of the machine and every lease is
its lease.  Each request keeps it so, and is answered alike; so are all requests of a run.

* `Machine.Represents`: the machine stands for a backend;
* `Machine.Represents.put`, `Represents.putLeases`, `Represents.rollback`: what keeps it so;
* `Machine.Agrees`: an action and the machine come to the same;
* `Machine.agrees_step`: they do, for every request;
* `Machine.entities_run`: what the requests have left under an id.
-/
import LeasedStore.Proofs.Machine.Basic
import LeasedStore.Proofs.Store.Schema

namespace LeasedStore

namespace Machine

variable {m m' : Machine} {b b' : Backend} {k k' : StoreKind} {id holder : String}
  {r : Resource}

/-! ### Writes of the machine -/

lemma entities_setEntity (m : Machine) (k : StoreKind) (id id' : String) (e? : Option k.Record) :
    (m.setEntity k id e?).entities k id' = if id = id' then e? else m.entities k id' := by
  simp only [setEntity, Function.update_self, Function.update_apply, eq_comm]

lemma entities_setEntity_of_ne (m : Machine) (hk : k ≠ k') (id : String) (e? : Option k.Record) :
    (m.setEntity k id e?).entities k' = m.entities k' := by
  simp only [setEntity, Function.update_of_ne hk.symm]

lemma leases_setLease (m : Machine) (r r' : Resource) (l? : Option Lease) :
    (m.setLease r l?).leases r' = if r = r' then l? else m.leases r' := by
  simp only [setLease, Function.update_apply, eq_comm]

lemma isHeldBy_iff : m.isHeldBy r holder = true ↔
    ∃ l, m.leases r = some l ∧ l.IsActive m.clock.now ∧ l.leasedBy = holder := by
  simp [isHeldBy, active?, Option.any_eq_true]

lemma isHeldByOther_iff : m.isHeldByOther r holder = true ↔
    ∃ l, m.leases r = some l ∧ l.leasedBy ≠ holder ∧ l.IsActive m.clock.now := by
  simp [isHeldByOther, active?, Option.any_eq_true, and_comm]

/-! ### Representation -/

/-- Does the machine stand for a backend? -/
structure Represents (m : Machine) (b : Backend) : Prop where
  isOpen : b.isOpen = true
  clock : b.clock = m.clock
  /-- There is a table of leases. -/
  hasLeases : ∃ t, b.database.leases = some t
  lease (r : Resource) : b.database.lease? r = m.leases r
  /-- There is a table of every kind. -/
  hasTable (k : StoreKind) : ∃ t, b.database.table? k.schema.mapping.table = some t
  conforms : b.database.Conforms
  row (k : StoreKind) (id : String) :
    b.database.row? k id = (m.entities k id).map Entity.row
  /-- There are no other rows than those of entities. -/
  isRow (k : StoreKind) (t : Table) : b.database.table? k.schema.mapping.table = some t →
    ∀ r ∈ t.rows, ∃ e : k.Record, Entity.row e = r
  /-- Every entity lies under its id and can be read again. -/
  stored (k : StoreKind) (id : String) (e : k.Record) :
    m.entities k id = some e → Entity.id e = id ∧ Entity.IsStorable e

namespace Represents

/-- A machine that has nothing stands for a backend that has only just been founded. -/
lemma start (now : Int64) : (Machine.start now).Represents (Backend.founded now) where
  isOpen := Backend.isOpen_founded now
  clock := Backend.clock_founded now
  hasLeases := ⟨_, Backend.leases_founded now⟩
  lease r := Backend.lease?_founded now r
  hasTable k := ⟨_, Backend.table?_founded now k⟩
  conforms := Backend.conforms_founded now
  row k id := Backend.row?_founded now k id
  isRow k t ht := by
    rw [Backend.table?_founded] at ht
    cases ht
    exact fun r hr => by cases hr
  stored k id e h := by cases h

lemma counters (h : m.Represents b) (cs : Counters) :
    m.Represents { b with counters := cs } :=
  ⟨h.isOpen, h.clock, h.hasLeases, h.lease, h.hasTable, h.conforms, h.row,
    h.isRow, h.stored⟩

lemma setClock (h : m.Represents b) (c : Clock) :
    ({ m with clock := c } : Machine).Represents { b with clock := c } :=
  ⟨h.isOpen, rfl, h.hasLeases, h.lease, h.hasTable, h.conforms, h.row,
    h.isRow, h.stored⟩

lemma rollback (h : m.Represents b) (h' : m'.Represents b') (hc : m'.clock = m.clock) :
    m.Represents { b' with database := b.database } :=
  ⟨h'.isOpen, h'.clock.trans hc, h.hasLeases, h.lease, h.hasTable, h.conforms, h.row,
    h.isRow, h.stored⟩

/-- A write of the table of leases. -/
lemma putLeases {t' : LeaseTable} {l? : Option Lease} (h : m.Represents b)
    (hr : ∀ r', t'.find? r' = if r = r' then l? else b.database.lease? r') (cs : Counters) :
    (m.setLease r l?).Represents
      { b with database := b.database.putLeases t', counters := cs } where
  isOpen := h.isOpen
  clock := h.clock
  hasLeases := ⟨t', rfl⟩
  lease r' := by rw [Database.lease?_putLeases, hr, leases_setLease, h.lease]
  hasTable := h.hasTable
  conforms := h.conforms.putLeases t'
  row := h.row
  isRow := h.isRow
  stored := h.stored

/-- A write of a table of entities. -/
lemma put {t t' : Table} {e? : Option k.Record} (h : m.Represents b)
    (ht : b.database.table? k.schema.mapping.table = some t)
    (hd : t'.definition = t.definition)
    (hr : ∀ id', t'.find? (.text id') =
      if id = id' then e?.map Entity.row else t.find? (.text id'))
    (hrows : ∀ r ∈ t'.rows, r ∈ t.rows ∨ ∃ e : k.Record, Entity.row e = r)
    (he : ∀ e ∈ e?, Entity.id e = id ∧ Entity.IsStorable e) (cs : Counters) :
    (m.setEntity k id e?).Represents
      { b with database := b.database.put t', counters := cs } := by
  have hname : t'.name = k.schema.mapping.table := by
    rw [Table.name, hd]
    exact Database.name_of_table? ht
  have hother : ∀ k', k ≠ k' → t'.name ≠ k'.schema.mapping.table := fun k' hk heq =>
    hk (StoreKind.table_injective _ _ (hname.symm.trans heq))
  refine ⟨h.isOpen, h.clock, h.hasLeases, h.lease, ?_, h.conforms.put ht hd, ?_, ?_, ?_⟩
  -- each clause is about the table that was written, or about another one, which is as it was
  · intro k'
    by_cases hk : k = k'
    · subst hk
      exact ⟨t', by rw [← hname]; exact Database.table?_put_self _ t'⟩
    · obtain ⟨t₁, ht₁⟩ := h.hasTable k'
      exact ⟨t₁, (Database.table?_put_of_ne (hother k' hk)).trans ht₁⟩
  · intro k' id'
    by_cases hk : k = k'
    · subst hk
      rw [Database.row?_put_self hname, hr, entities_setEntity, ← Database.row?_of_table? ht,
        h.row]
      split <;> rfl
    · rw [Database.row?_put_of_ne hname hk, entities_setEntity_of_ne m hk, h.row]
  · intro k' t₁ ht₁ r hr
    by_cases hk : k = k'
    · subst hk
      rw [← hname, Database.table?_put_self] at ht₁
      cases ht₁
      exact (hrows r hr).elim (h.isRow k t ht r) fun he => he
    · rw [Database.table?_put_of_ne (hother k' hk)] at ht₁
      exact h.isRow k' t₁ ht₁ r hr
  · intro k' id' e hentity
    by_cases hk : k = k'
    · subst hk
      rw [entities_setEntity] at hentity
      split at hentity
      · next heq => exact heq ▸ he e hentity
      · exact h.stored k id' e hentity
    · rw [entities_setEntity_of_ne m hk] at hentity
      exact h.stored k' id' e hentity

end Represents

/-! ### Leases -/

/-- Do the machine and an action come to the same? -/
def Agrees {α : Type} (out : Except StoreError α × Machine)
    (out' : Except StoreError α × Backend) : Prop :=
  out'.1 = out.1 ∧ out.2.Represents out'.2

lemma Agrees.bind_pure {α β : Type} {out : Except StoreError α × Machine} {a : Action α}
    (h : Agrees out (a.runOn b)) (f : α → β) :
    Agrees (out.1.map f, out.2) ((a >>= fun x => pure (f x)).runOn b) := by
  rw [Action.runOn_bind_pure]
  exact ⟨congrArg (Except.map f) h.1, h.2⟩

variable {s : EntityStore k.Record}

namespace Represents

lemma active? (h : m.Represents b) (r : Resource) :
    (b.database.lease? r).filter (fun l => l.IsActive b.clock.now) = m.active? r := by
  rw [h.lease, h.clock]
  rfl

lemma refusal (h : m.Represents b) (s : EntityStore k.Record) (id : String) :
    s.leases.refusal id b = m.conflict k id := by
  rw [LeaseManager.refusal, h.active?]
  rfl

/-- A lease that is given up. -/
lemma consume_of_held {t : LeaseTable} (h : m.Represents b) (hl : b.database.leases = some t)
    (hh : m.isHeldBy r holder = true) :
    ∃ t', t.consume b.clock.now r holder = some t' ∧
      ∀ r', t'.find? r' = if r = r' then none else b.database.lease? r' := by
  obtain ⟨l, hf, ha, hb⟩ := isHeldBy_iff.mp hh
  rw [← h.lease, Database.lease?_of_leases hl] at hf
  rw [← h.clock] at ha
  refine ⟨t.erase r, LeaseTable.consume_eq_some_iff.mpr ⟨⟨l, hf, ha, hb⟩, rfl⟩, fun r' => ?_⟩
  rw [LeaseTable.find?_erase, Database.lease?_of_leases hl]

/-- A lease that is not there to be given up. -/
lemma consume_of_not_held {t : LeaseTable} (h : m.Represents b)
    (hl : b.database.leases = some t) (hh : m.isHeldBy r holder = false) :
    t.consume b.clock.now r holder = none := by
  refine LeaseTable.consume_eq_none_iff.mpr fun l hf ha hb => ?_
  rw [← Database.lease?_of_leases hl, h.lease] at hf
  rw [h.clock] at ha
  have hheld : m.isHeldBy r holder = true := isHeldBy_iff.mpr ⟨l, hf, ha, hb⟩
  rw [hheld] at hh
  cases hh

end Represents

/-- Taking a lease. -/
lemma agrees_acquireIn (h : m.Represents b) (s : EntityStore k.Record) (id holder : String)
    (d : Int64) :
    Agrees (m.acquire k id holder d)
      ((s.leases.acquireIn id holder d >>= fun l => pure (.lease (some l))).runOn b) := by
  obtain ⟨t, hl⟩ := h.hasLeases
  -- the machine refuses where the table of leases does
  have hother : m.isHeldByOther (k.resource id) holder = true ↔
      t.acquire (s.leases.request id holder b.clock.now d) = none := by
    rw [LeaseTable.acquire_eq_none_iff, isHeldByOther_iff, ← h.clock]
    simp only [← h.lease, Database.lease?_of_leases hl]
    rfl
  cases ha : t.acquire (s.leases.request id holder b.clock.now d) with
  | none =>
      rw [acquire, if_pos (hother.mpr ha),
        Action.runOn_bind_of_error (LeaseManager.runOn_acquireIn_of_refused hl ha), h.refusal]
      exact ⟨rfl, h.counters _⟩
  | some t' =>
      have hno : ¬ m.isHeldByOther (k.resource id) holder = true := by
        rw [hother, ha]
        exact fun hn => by cases hn
      rw [acquire, if_neg hno, ← h.clock,
        Action.runOn_bind_of_ok (LeaseManager.runOn_acquireIn_of_granted hl ha)]
      refine ⟨rfl, h.putLeases (fun r' => ?_) _⟩
      rw [LeaseTable.eq_insert_of_acquire ha, LeaseTable.find?_insert,
        Database.lease?_of_leases hl]
      rfl

/-- Giving a lease up. -/
lemma agrees_consumeIn (h : m.Represents b) (s : EntityStore k.Record) (id holder : String) :
    Agrees (m.giveUp k id holder)
      ((s.leases.consumeIn id holder >>= fun _ => pure .done).runOn b) := by
  obtain ⟨t, hl⟩ := h.hasLeases
  cases hh : m.isHeldBy (k.resource id) holder with
  | false =>
      have hc : t.consume b.clock.now (s.leases.resource id) holder = none :=
        h.consume_of_not_held hl hh
      rw [giveUp, if_neg (by rw [hh]; decide),
        Action.runOn_bind_of_error (LeaseManager.runOn_consumeIn_of_refused hl hc), h.refusal]
      exact ⟨rfl, h.counters _⟩
  | true =>
      obtain ⟨t', hc, hr⟩ := h.consume_of_held hl hh
      have hheld : (s.leases.consumeIn id holder).runOn b =
          (.ok (), { b with database := b.database.putLeases t' }) :=
        LeaseManager.runOn_consumeIn_of_held hl hc
      rw [giveUp, if_pos hh, Action.runOn_bind_of_ok hheld]
      exact ⟨rfl, h.putLeases hr b.counters⟩

/-- Asking for a lease. -/
lemma agrees_describe (h : m.Represents b) (s : EntityStore k.Record) (id : String) :
    s.leases.find id b = .ok (m.active? (k.resource id)) ∧
      s.leases.describeIn id b = .ok (m.active? (k.resource id)) := by
  obtain ⟨t, hl⟩ := h.hasLeases
  rw [LeaseManager.find_of_open h.isOpen hl, LeaseManager.describeIn_of_leases hl, h.active?]
  exact ⟨rfl, rfl⟩

/-- A call of a lease manager. -/
lemma agrees_leaseStep (h : m.Represents b) (s : EntityStore k.Record) (l : LeaseStep) :
    Agrees (m.leaseStep k s.leaseDuration l) ((s.leases.step l).runOn b) := by
  cases l with
  | acquire id holder =>
      rw [LeaseManager.step, LeaseManager.acquire, bind_assoc,
        Action.runOn_connect_bind_of_open h.isOpen]
      exact agrees_acquireIn h s id holder s.leaseDuration
  | acquireFor id holder d =>
      rw [LeaseManager.step, LeaseManager.acquireFor, bind_assoc,
        Action.runOn_connect_bind_of_open h.isOpen]
      exact agrees_acquireIn h s id holder d.millis
  | release id holder =>
      rw [LeaseManager.step, LeaseManager.release, bind_assoc,
        Action.runOn_connect_bind_of_open h.isOpen]
      exact agrees_consumeIn h s id holder
  | find id =>
      rw [LeaseManager.step, Action.runOn_bind, Action.runOn_read, (agrees_describe h s id).1]
      exact ⟨rfl, h⟩
  | breakLease id =>
      obtain ⟨t, hl⟩ := h.hasLeases
      rw [LeaseManager.step, Action.runOn_bind, LeaseManager.runOn_breakLease_of_open h.isOpen hl]
      refine ⟨?_, h.putLeases (fun r' => ?_) b.counters⟩
      · rw [← Database.lease?_of_leases hl, h.lease]
        rfl
      · rw [LeaseTable.find?_erase, Database.lease?_of_leases hl]
        rfl

/-- A call of a lease manager inside a transaction. -/
lemma agrees_leaseCall (h : m.Represents b) (s : EntityStore k.Record) (l : LeaseCall) :
    Agrees (m.leaseCall k l) ((s.leases.call l).runOn b) := by
  cases l with
  | acquire id holder d => exact agrees_acquireIn h s id holder d
  | consume id holder => exact agrees_consumeIn h s id holder
  | describe id =>
      rw [LeaseManager.call, Action.runOn_bind, Action.runOn_read, (agrees_describe h s id).2]
      exact ⟨rfl, h⟩

/-- Calls of a lease manager inside a transaction.  By induction on the calls: what the first one
does to the machine stands for what it does to the backend. -/
lemma agrees_leaseCalls (h : m.Represents b) (s : EntityStore k.Record) (ls : List LeaseCall) :
    Agrees (m.leaseCalls k ls) ((s.leases.callAll ls).runOn b) := by
  induction ls generalizing m b with
  | nil => exact ⟨rfl, h⟩
  | cons l rest ih =>
      obtain ⟨hanswer, hrep⟩ := agrees_leaseCall h s l
      rw [leaseCalls, LeaseManager.callAll, Action.runOn_bind]
      rcases hm : m.leaseCall k l with ⟨e | a, m₁⟩ <;>
        rcases hb : (s.leases.call l).runOn b with ⟨e' | a', b₁⟩ <;>
        rw [hm, hb] at hanswer hrep <;> cases hanswer
      · exact ⟨rfl, hrep⟩
      · exact (ih hrep).bind_pure _

lemma frame_acquire (m : Machine) (k : StoreKind) (id holder : String) (d : Int64) :
    (m.acquire k id holder d).2.clock = m.clock ∧
      (m.acquire k id holder d).2.entities = m.entities := by
  rw [acquire]
  split <;> exact ⟨rfl, rfl⟩

lemma frame_giveUp (m : Machine) (k : StoreKind) (id holder : String) :
    (m.giveUp k id holder).2.clock = m.clock ∧
      (m.giveUp k id holder).2.entities = m.entities := by
  rw [giveUp]
  split <;> exact ⟨rfl, rfl⟩

/-- Calls of a lease manager change leases alone. -/
lemma frame_leaseCalls (m : Machine) (k : StoreKind) (ls : List LeaseCall) :
    (m.leaseCalls k ls).2.clock = m.clock ∧ (m.leaseCalls k ls).2.entities = m.entities := by
  induction ls generalizing m with
  | nil => exact ⟨rfl, rfl⟩
  | cons l rest ih =>
      have hl : (m.leaseCall k l).2.clock = m.clock ∧
          (m.leaseCall k l).2.entities = m.entities := by
        cases l with
        | acquire id holder d => exact m.frame_acquire k id holder d
        | consume id holder => exact m.frame_giveUp k id holder
        | describe id => exact ⟨rfl, rfl⟩
      rw [leaseCalls]
      rcases hm : m.leaseCall k l with ⟨e | a, m₁⟩ <;> rw [hm] at hl
      · exact hl
      · exact ⟨(ih m₁).1.trans hl.1, (ih m₁).2.trans hl.2⟩

/-- Calls of a lease manager in one transaction. -/
lemma agrees_leasesTogether (h : m.Represents b) (s : EntityStore k.Record)
    (calls : List LeaseCall) (failure : Option StoreError) :
    Agrees (m.leasesTogether k calls failure)
      ((s.leases.callTogether calls failure).runOn b) := by
  obtain ⟨hanswer, hrep⟩ := agrees_leaseCalls h s calls
  have hclock := (m.frame_leaseCalls k calls).1
  rw [leasesTogether, LeaseManager.callTogether, Action.runOn_transaction_of_open h.isOpen,
    Action.runOn_bind]
  rcases hm : m.leaseCalls k calls with ⟨e | as, m₁⟩ <;>
    rcases hb : (s.leases.callAll calls).runOn b with ⟨e' | as', b₁⟩ <;>
    rw [hm, hb] at hanswer hrep <;> rw [hm] at hclock <;> cases hanswer
  · exact ⟨rfl, h.rollback hrep hclock⟩
  · cases failure with
    | none => exact ⟨rfl, hrep⟩
    | some e => exact ⟨rfl, h.rollback hrep hclock⟩

/-! ### Entities -/

/-- A new entity. -/
lemma agrees_create (h : m.Represents b) (c : ControlPlane) {e : k.Record}
    (hs : Entity.IsStorable e) :
    Agrees (m.step c (.create k e)) ((Request.act c (.create k e)).runOn b) := by
  obtain ⟨t, ht⟩ := h.hasTable k
  have hd := h.conforms k t ht
  have hrow := h.row k (Entity.id e)
  rw [Database.row?_of_table? ht] at hrow
  rw [step, Request.act]
  cases he : m.entities k (Entity.id e) with
  | some e' =>
      rw [he] at hrow
      have hi := EntityStore.insert_row_of_taken hd e hrow
      rw [if_pos (by rfl),
        Action.runOn_bind_of_error (EntityStore.runOn_create_of_taken h.isOpen ht hi)]
      exact ⟨rfl, h⟩
  | none =>
      rw [he] at hrow
      obtain ⟨t', hi, hd', hrows, hfind⟩ := EntityStore.exists_insert_row_of_free hd e hrow
      rw [if_neg (by simp), Action.runOn_bind_of_ok (EntityStore.runOn_create_of_ok h.isOpen ht hi)]
      refine ⟨rfl, h.put ht hd' hfind (fun r hr => ?_) (fun e' he' => ?_) _⟩
      · rw [hrows, List.mem_append, List.mem_singleton] at hr
        exact hr.imp_right fun hr => ⟨e, hr.symm⟩
      · cases he'
        exact ⟨rfl, hs⟩

/-- A look-up finds the entity of the machine. -/
lemma Represents.find (h : m.Represents b) (s : EntityStore k.Record) (id : String) :
    s.find id b = .ok (m.entities k id) := by
  have hrow := h.row k id
  cases he : m.entities k id with
  | none =>
      obtain ⟨t, ht⟩ := h.hasTable k
      rw [he] at hrow
      exact EntityStore.find_of_absent h.isOpen ht hrow
  | some e =>
      rw [he] at hrow
      have hs := (h.stored k id e he).2
      exact EntityStore.find_of_row? h.isOpen hrow (DocumentedEntity.ofRow_row e hs)

lemma agrees_find (h : m.Represents b) (c : ControlPlane) (k : StoreKind) (id : String) :
    Agrees (m.step c (.find k id)) ((Request.act c (.find k id)).runOn b) := by
  rw [Request.act, Action.runOn_bind, Action.runOn_read, h.find]
  exact ⟨rfl, h⟩

/-- A write under a lease: `write` overwrites the row of an id, or removes it, if there is one. -/
lemma agrees_guarded {write : Table → Except DatabaseError (Option Table)} {e? : Option k.Record}
    (h : m.Represents b) (s : EntityStore k.Record) (op : Mutation)
    (hw : EntityStore.IsWrite k id (e?.map Entity.row) write)
    (he : ∀ e ∈ e?, Entity.id e = id ∧ Entity.IsStorable e) :
    Agrees (m.write k id holder e?)
      ((s.guarded op id holder write >>= fun _ => pure .done).runOn b) := by
  obtain ⟨lt, hl⟩ := h.hasLeases
  obtain ⟨t, ht⟩ := h.hasTable k
  have hd := h.conforms k t ht
  have hrow := h.row k id
  rw [Database.row?_of_table? ht] at hrow
  rw [Machine.write]
  -- first the lease is looked at, then the row: where the row is missing the lease is not given up
  cases hh : m.isHeldBy (k.resource id) holder with
  | false =>
      have hc : lt.consume b.clock.now (s.leases.resource id) holder = none :=
        h.consume_of_not_held hl hh
      rw [if_neg (by simp),
        Action.runOn_bind_of_error (EntityStore.runOn_guarded_of_refused h.isOpen hl hc),
        h.refusal]
      exact ⟨rfl, h.counters _⟩
  | true =>
      obtain ⟨lt', hc, hr⟩ := h.consume_of_held hl hh
      have hc : lt.consume b.clock.now (s.leases.resource id) holder = some lt' := hc
      rw [if_pos rfl]
      cases hid : m.entities k id with
      | none =>
          rw [hid] at hrow
          rw [if_neg (by simp), Action.runOn_bind_of_error
            (EntityStore.runOn_guarded_of_absent h.isOpen hl hc ht (hw.absent t hd hrow))]
          exact ⟨rfl, h⟩
      | some e =>
          rw [hid] at hrow
          obtain ⟨t', hw, hd', hfind, hrows⟩ := hw.present t _ hd hrow
          rw [if_pos (by rfl), Action.runOn_bind_of_ok
            (EntityStore.runOn_guarded_of_written h.isOpen hl hc ht hw)]
          refine ⟨rfl, (h.putLeases hr b.counters).put ht hd' hfind (fun r hr => ?_) he _⟩
          refine (hrows r hr).imp_right fun hr => ?_
          obtain ⟨e', -, he'⟩ := Option.map_eq_some_iff.mp hr
          exact ⟨e', he'⟩

/-- An entity overwritten. -/
lemma agrees_update (h : m.Represents b) (c : ControlPlane) {e : k.Record} (holder : String)
    (hs : Entity.IsStorable e) :
    Agrees (m.step c (.update k e holder)) ((Request.act c (.update k e holder)).runOn b) := by
  refine agrees_guarded h (c.store k) .update (EntityStore.isWrite_update e) fun e' he' => ?_
  cases he'
  exact ⟨rfl, hs⟩

lemma agrees_delete (h : m.Represents b) (c : ControlPlane) (k : StoreKind) (id holder : String) :
    Agrees (m.step c (.delete k id holder)) ((Request.act c (.delete k id holder)).runOn b) :=
  agrees_guarded h (c.store k) .delete (EntityStore.isWrite_delete k id) fun e he => by cases he

/-! ### Runs -/

/-- Every request is answered as the machine answers it, and leaves what the machine leaves. -/
lemma agrees_step (h : m.Represents b) (c : ControlPlane) {q : Request} (hs : q.IsStorable) :
    Agrees (m.step c q) ((q.act c).runOn b) := by
  cases q with
  | create k e => exact agrees_create h c hs
  | find k id => exact agrees_find h c k id
  | update k e holder => exact agrees_update h c holder hs
  | delete k id holder => exact agrees_delete h c k id holder
  | lease k l => exact (agrees_leaseStep h (c.store k) l).bind_pure _
  | together k calls failure =>
      exact (agrees_leasesTogether h (c.store k) calls failure).bind_pure _
  | advance d =>
      have hclock : b.clock = m.clock := h.clock
      refine ⟨?_, ?_⟩
      · rw [step, ← hclock]
        rfl
      · rw [step, ← hclock]
        exact h.setClock _
  | setClock millis => exact ⟨rfl, h.setClock _⟩

/-- All requests of a run are answered as the machine answers them.  By induction on the requests,
the representation being what every one of them keeps. -/
lemma agrees_run (h : m.Represents b) (qs : List (ControlPlane × Request))
    (hs : ∀ q ∈ qs, q.2.IsStorable) :
    (Request.runAll qs b).1 = (run qs m).1 ∧ (run qs m).2.Represents (Request.runAll qs b).2 := by
  induction qs generalizing m b with
  | nil => exact ⟨rfl, h⟩
  | cons q rest ih =>
      obtain ⟨c, q⟩ := q
      obtain ⟨hanswer, hrep⟩ := agrees_step h c (hs _ (List.mem_cons_self ..))
      obtain ⟨hanswers, hrest⟩ := ih hrep fun q hq => hs q (List.mem_cons_of_mem _ hq)
      refine ⟨?_, hrest⟩
      rw [Request.runAll, run]
      exact congrArg₂ List.cons hanswer hanswers

/-! ### What is stored -/

/-- The entity under an id after another one, or none, was put in. -/
lemma entities_setEntity_eq (m : Machine) (k : StoreKind) {k' : StoreKind} (id id' : String)
    (e? : Option k'.Record) :
    (m.setEntity k' id' e?).entities k id =
      (Request.leftAt id' e? k id).getD (m.entities k id) := by
  rw [Request.leftAt]
  split
  · next h =>
    subst h
    rw [m.entities_setEntity k' id' id e?]
    split <;> rfl
  · next h =>
    rw [m.entities_setEntity_of_ne h]
    rfl

/-- The entity under an id after a write under a lease. -/
lemma entities_write (m : Machine) (k : StoreKind) {k' : StoreKind} (id id' holder : String)
    (e? : Option k'.Record) :
    (m.write k' id' holder e?).2.entities k id =
      if (m.write k' id' holder e?).1.isOk then
        (Request.leftAt id' e? k id).getD (m.entities k id)
      else m.entities k id := by
  rw [← entities_setEntity_eq, write]
  split
  · split <;> rfl
  · rfl

/-- Calls of a lease manager leave the entities as they are. -/
lemma entities_leaseStep (m : Machine) (k : StoreKind) (duration : Int64) (l : LeaseStep) :
    (m.leaseStep k duration l).2.entities = m.entities := by
  cases l with
  | acquire id holder => exact (m.frame_acquire k id holder duration).2
  | acquireFor id holder d => exact (m.frame_acquire k id holder d.millis).2
  | release id holder => exact (m.frame_giveUp k id holder).2
  | find id => rfl
  | breakLease id => rfl

/-- Transactions of a lease manager leave the entities as they are. -/
lemma entities_leasesTogether (m : Machine) (k : StoreKind) (calls : List LeaseCall)
    (failure : Option StoreError) :
    (m.leasesTogether k calls failure).2.entities = m.entities := by
  have hframe := (m.frame_leaseCalls k calls).2
  rw [leasesTogether]
  rcases hm : m.leaseCalls k calls with ⟨e | as, m₁⟩
  · rfl
  · rw [hm] at hframe
    cases failure with
    | none => exact hframe
    | some e => rfl

/-- The entity under an id after one request. -/
lemma entities_step (m : Machine) (c : ControlPlane) (q : Request) (k : StoreKind) (id : String) :
    (m.step c q).2.entities k id =
      if (m.step c q).1.isOk then (q.leaves? k id).getD (m.entities k id)
      else m.entities k id := by
  cases q with
  | create k' e =>
      rw [step]
      split
      · rfl
      · exact m.entities_setEntity_eq k id (Entity.id e) (some e)
  | find k' id' => exact (ite_self _).symm
  | update k' e holder => exact m.entities_write k id (Entity.id e) holder (some e)
  | delete k' id' holder => exact m.entities_write k id id' holder none
  | lease k' l =>
      have hsame := m.entities_leaseStep k' (c.store k').leaseDuration l
      exact (congrFun (congrFun hsame k) id).trans (ite_self _).symm
  | together k' calls failure =>
      have hsame := m.entities_leasesTogether k' calls failure
      exact (congrFun (congrFun hsame k) id).trans (ite_self _).symm
  | advance d => rfl
  | setClock millis => rfl

/-- The entities after a run are what its requests, as far as they succeeded, have left. -/
lemma entities_run (m : Machine) (qs : List (ControlPlane × Request)) (k : StoreKind)
    (id : String) :
    (run qs m).2.entities k id =
      lastLeft k id ((qs.map Prod.snd).zip (run qs m).1) (m.entities k id) := by
  induction qs generalizing m with
  | nil => rfl
  | cons q rest ih =>
      obtain ⟨c, q⟩ := q
      rw [run, List.map_cons]
      change (run rest (m.step c q).2).2.entities k id = lastLeft k id
        ((q, (m.step c q).1) :: (rest.map Prod.snd).zip (run rest (m.step c q).2).1) _
      rw [ih, lastLeft, entities_step]

/-! ### From the beginning -/

/-- Whatever is asked of the stores, by whomever and whenever, they answer it as the machine does,
and the entity that is found under an id is the one that the requests so far have left there. -/
theorem answers_of_founded (now : Int64) (qs : List (ControlPlane × Request))
    (hs : ∀ q ∈ qs, q.2.IsStorable) :
    let out := Request.runAll qs (Backend.founded now)
    out.1 = (run qs (start now)).1 ∧ (run qs (start now)).2.Represents out.2 ∧
      ∀ (c : ControlPlane) (k : StoreKind) (id : String),
        ((c.store k).find id) out.2 =
          .ok (lastLeft k id ((qs.map Prod.snd).zip out.1) none) := by
  intro out
  obtain ⟨hanswers, hrep⟩ := agrees_run (.start now) qs hs
  refine ⟨hanswers, hrep, fun c k id => ?_⟩
  rw [hrep.find, entities_run, hanswers]
  rfl

/-- A policy is put in, overwritten under a lease and found; without the lease it is not. -/
theorem answers_of_policy :
    let c : ControlPlane := ⟨"here", 1000, 10⟩
    let old : PolicyDefinition := ⟨"p", .ofJson .null, 7⟩
    let new : PolicyDefinition := ⟨"p", .ofJson (.array [.ofInt64 1]), 8⟩
    let qs : List Request :=
      [.create .policyDefinition old, .create .policyDefinition new,
        .update .policyDefinition new "a",
        .lease .policyDefinition (.acquire "p" "a"),
        .update .policyDefinition new "a", .delete .policyDefinition "p" "a",
        .find .policyDefinition "p"]
    (∀ q ∈ qs, q.IsStorable) ∧
      (Request.runAll (qs.map fun q => (c, q)) (Backend.founded 0)).1 =
        [.ok .done, .error (.duplicateId "p"), .error (.leaseConflict "p" none),
          .ok (.lease (.lease (some ⟨"policy-definition", "p", "a", 0, 1000⟩))), .ok .done,
          .error (.leaseConflict "p" none), .ok (.entity .policyDefinition (some new))] := by
  intro c old new qs
  have hold : Entity.IsStorable old := by
    intro j hj
    cases List.mem_singleton.mp hj
    exact ⟨trivial, by decide⟩
  have hnew : Entity.IsStorable new := by
    intro j hj
    cases List.mem_singleton.mp hj
    exact ⟨⟨trivial, trivial⟩, by decide⟩
  have hs : ∀ q ∈ qs, q.IsStorable := by
    simp only [qs, List.forall_mem_cons]
    exact ⟨hold, hnew, hnew, trivial, hnew, trivial, trivial, by simp⟩
  refine ⟨hs, ?_⟩
  have hanswers := (answers_of_founded 0 (qs.map fun q => (c, q)) (by simpa using hs)).1
  refine hanswers.trans ?_
  dsimp only [qs, c, old, new]
  rfl

end Machine

end LeasedStore
