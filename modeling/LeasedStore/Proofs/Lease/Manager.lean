/-
What the calls of a lease manager answer and what they leave behind.

Each call is described by the row of its resource in the table of leases: `acquireIn` and
`consumeIn` succeed or are refused according to it, and a call that is refused changes no table.

* `Database.lease?`: the row of a resource, over or not;
* `runOn_acquireIn_of_granted`, `runOn_acquireIn_of_refused`: a lease taken, or refused;
* `runOn_consumeIn_of_held`, `runOn_consumeIn_of_refused`: a lease given up, or refused;
* `acquireIn_eq_ok`, `consumeIn_eq_ok`: what there was if they succeed, and what there is
  afterwards;
* `find_of_open`, `runOn_breakLease_of_open`: the calls that nobody is refused.
-/
import LeasedStore.Lease.Manager
import LeasedStore.Proofs.Backend
import LeasedStore.Proofs.Lease.Table

namespace LeasedStore

namespace Database

/-- The row of a resource in the table of leases, over or not. -/
def lease? (db : Database) (r : Resource) : Option Lease := db.leases.bind fun t => t.find? r

lemma lease?_of_leases {db : Database} {t : LeaseTable} (h : db.leases = some t) (r : Resource) :
    db.lease? r = t.find? r := by
  rw [lease?, h]; rfl

@[simp]
lemma lease?_putLeases (db : Database) (t : LeaseTable) (r : Resource) :
    (db.putLeases t).lease? r = t.find? r := rfl

lemma leases_of_lease? {db : Database} {r : Resource} {l : Lease} (h : db.lease? r = some l) :
    ∃ t, db.leases = some t ∧ t.find? r = some l :=
  Option.bind_eq_some_iff.mp h

lemma leaseTable_of_leases {db : Database} {t : LeaseTable} (h : db.leases = some t) :
    db.leaseTable = .ok t := by
  rw [leaseTable, h]

lemma leaseTable_of_none {db : Database} (h : db.leases = none) :
    db.leaseTable = .error (.noSuchTable LeaseTable.name) := by
  rw [leaseTable, h]

end Database

namespace LeaseManager

variable {m : LeaseManager} {id holder : String} {d : Int64} {b b' : Backend}
  {t t' : LeaseTable}

@[simp]
lemma request_resource (m : LeaseManager) (id holder : String) (now d : Int64) :
    (m.request id holder now d).resource = m.resource id := rfl

@[simp]
lemma request_leasedBy (m : LeaseManager) (id holder : String) (now d : Int64) :
    (m.request id holder now d).leasedBy = holder := rfl

@[simp]
lemma request_leasedAt (m : LeaseManager) (id holder : String) (now d : Int64) :
    (m.request id holder now d).leasedAt = now := rfl

/-! ### Refusals -/

/-- The error of a call about a lease that somebody else holds, or nobody. -/
def refusal (m : LeaseManager) (id : String) (b : Backend) : StoreError :=
  .leaseConflict id (((b.database.lease? (m.resource id)).filter
    fun l => l.IsActive b.clock.now).map Lease.leasedBy)

/-- The backend after a refusal, which is counted. -/
def refused (m : LeaseManager) (b : Backend) : Backend :=
  { b with counters := b.counters.bump (.leaseConflict m.resourceKind) }

@[simp]
lemma refused_database (m : LeaseManager) (b : Backend) :
    (m.refused b).database = b.database := rfl

/-- The active lease on an entity. -/
lemma describeIn_of_leases (h : b.database.leases = some t) (m : LeaseManager) (id : String) :
    m.describeIn id b =
      .ok ((b.database.lease? (m.resource id)).filter fun l => l.IsActive b.clock.now) := by
  rw [describeIn, Reading.bind_of_ok
    (Reading.database_of_ok (Database.leaseTable_of_leases h))]
  rw [Database.lease?_of_leases h]
  rfl

lemma runOn_refuse {α : Type} (h : b.database.leases = some t) (m : LeaseManager) (id : String) :
    (m.refuse id : Action α).runOn b = (.error (m.refusal id b), m.refused b) := by
  rw [refuse, Action.runOn_bind, Action.runOn_read, describeIn_of_leases h]
  rfl

/-! ### Leases taken -/

/-- A lease is taken, and counted. -/
lemma runOn_acquireIn_of_granted (h : b.database.leases = some t)
    (ht : t.acquire (m.request id holder b.clock.now d) = some t') :
    (m.acquireIn id holder d).runOn b =
      (.ok (m.request id holder b.clock.now d),
        { b with
          database := b.database.putLeases t'
          counters := b.counters.bump (.leaseAcquired m.resourceKind) }) := by
  rw [acquireIn, Action.runOn_bind, Action.runOn_read, Reading.now_apply]
  dsimp only
  rw [Action.runOn_bind, Action.runOn_read,
    Reading.database_of_ok (Database.leaseTable_of_leases h)]
  dsimp only
  rw [ht]
  rfl

/-- A lease is refused. -/
lemma runOn_acquireIn_of_refused (h : b.database.leases = some t)
    (ht : t.acquire (m.request id holder b.clock.now d) = none) :
    (m.acquireIn id holder d).runOn b = (.error (m.refusal id b), m.refused b) := by
  rw [acquireIn, Action.runOn_bind, Action.runOn_read, Reading.now_apply]
  dsimp only
  rw [Action.runOn_bind, Action.runOn_read,
    Reading.database_of_ok (Database.leaseTable_of_leases h)]
  dsimp only
  rw [ht]
  exact runOn_refuse h m id

/-- No leases are taken where there is no table of them. -/
lemma runOn_acquireIn_of_none (h : b.database.leases = none) :
    (m.acquireIn id holder d).runOn b =
      (.error (.database (.noSuchTable LeaseTable.name)), b) := by
  rw [acquireIn, Action.runOn_bind, Action.runOn_read, Reading.now_apply]
  dsimp only
  rw [Action.runOn_bind, Action.runOn_read,
    Reading.database_of_error (Database.leaseTable_of_none h)]

/-! ### Leases given up -/

/-- An active lease is given up by its holder. -/
lemma runOn_consumeIn_of_held (h : b.database.leases = some t)
    (ht : t.consume b.clock.now (m.resource id) holder = some t') :
    (m.consumeIn id holder).runOn b =
      (.ok (), { b with database := b.database.putLeases t' }) := by
  rw [consumeIn, Action.runOn_bind, Action.runOn_read, Reading.now_apply]
  dsimp only
  rw [Action.runOn_bind, Action.runOn_read,
    Reading.database_of_ok (Database.leaseTable_of_leases h)]
  dsimp only
  rw [ht]
  rfl

/-- Giving up a lease is refused. -/
lemma runOn_consumeIn_of_refused (h : b.database.leases = some t)
    (ht : t.consume b.clock.now (m.resource id) holder = none) :
    (m.consumeIn id holder).runOn b = (.error (m.refusal id b), m.refused b) := by
  rw [consumeIn, Action.runOn_bind, Action.runOn_read, Reading.now_apply]
  dsimp only
  rw [Action.runOn_bind, Action.runOn_read,
    Reading.database_of_ok (Database.leaseTable_of_leases h)]
  dsimp only
  rw [ht]
  exact runOn_refuse h m id

/-- No leases are given up where there is no table of them. -/
lemma runOn_consumeIn_of_none (h : b.database.leases = none) :
    (m.consumeIn id holder).runOn b =
      (.error (.database (.noSuchTable LeaseTable.name)), b) := by
  rw [consumeIn, Action.runOn_bind, Action.runOn_read, Reading.now_apply]
  dsimp only
  rw [Action.runOn_bind, Action.runOn_read,
    Reading.database_of_error (Database.leaseTable_of_none h)]

/-! ### What happened -/

/-- If a lease is taken, it is the one that was asked for. -/
lemma acquireIn_eq_ok {l : Lease} (h : (m.acquireIn id holder d).runOn b = (.ok l, b')) :
    ∃ t t', b.database.leases = some t ∧
      t.acquire (m.request id holder b.clock.now d) = some t' ∧
      l = m.request id holder b.clock.now d ∧
      b'.database = b.database.putLeases t' := by
  cases hl : b.database.leases with
  | none =>
      rw [runOn_acquireIn_of_none hl] at h
      cases h
  | some t =>
      cases ha : t.acquire (m.request id holder b.clock.now d) with
      | none =>
          rw [runOn_acquireIn_of_refused hl ha] at h
          cases h
      | some t' =>
          rw [runOn_acquireIn_of_granted hl ha] at h
          cases h
          exact ⟨t, t', rfl, ha, rfl, rfl⟩

lemma request_of_acquireIn {l : Lease} (h : (m.acquireIn id holder d).runOn b = (.ok l, b')) :
    l.resource = m.resource id ∧ l.leasedBy = holder ∧ l.leasedAt = b.clock.now := by
  obtain ⟨-, -, -, -, rfl, -⟩ := acquireIn_eq_ok h
  exact ⟨rfl, rfl, rfl⟩

/-- A lease that is taken is the row of its resource, and the other rows are what they were. -/
lemma lease?_of_acquireIn {l : Lease} (h : (m.acquireIn id holder d).runOn b = (.ok l, b'))
    (r : Resource) :
    b'.database.lease? r = if m.resource id = r then some l else b.database.lease? r := by
  obtain ⟨t, t', ht, ha, rfl, hb⟩ := acquireIn_eq_ok h
  rw [hb, Database.lease?_putLeases, LeaseTable.eq_insert_of_acquire ha, LeaseTable.find?_insert,
    Database.lease?_of_leases ht, request_resource]

/-- A lease is taken from nobody, from its holder, or once it is over. -/
lemma free_of_acquireIn {l current : Lease}
    (h : (m.acquireIn id holder d).runOn b = (.ok l, b'))
    (hc : b.database.lease? (m.resource id) = some current) :
    current.leasedBy = holder ∨ ¬ current.IsActive b.clock.now := by
  obtain ⟨t, t', ht, ha, -, -⟩ := acquireIn_eq_ok h
  rw [Database.lease?_of_leases ht] at hc
  exact LeaseTable.free_of_acquire ha hc

/-- If no lease is taken, no table is changed. -/
lemma database_of_acquireIn_error {e : StoreError}
    (h : (m.acquireIn id holder d).runOn b = (.error e, b')) : b'.database = b.database := by
  cases hl : b.database.leases with
  | none =>
      rw [runOn_acquireIn_of_none hl] at h
      cases h
      rfl
  | some t =>
      cases ha : t.acquire (m.request id holder b.clock.now d) with
      | none =>
          rw [runOn_acquireIn_of_refused hl ha] at h
          cases h
          rfl
      | some t' =>
          rw [runOn_acquireIn_of_granted hl ha] at h
          cases h

/-- If a lease is given up, its holder had it. -/
lemma consumeIn_eq_ok {u : Unit} (h : (m.consumeIn id holder).runOn b = (.ok u, b')) :
    ∃ t t', b.database.leases = some t ∧
      t.consume b.clock.now (m.resource id) holder = some t' ∧
      b' = { b with database := b.database.putLeases t' } := by
  cases hl : b.database.leases with
  | none =>
      rw [runOn_consumeIn_of_none hl] at h
      cases h
  | some t =>
      cases hc : t.consume b.clock.now (m.resource id) holder with
      | none =>
          rw [runOn_consumeIn_of_refused hl hc] at h
          cases h
      | some t' =>
          rw [runOn_consumeIn_of_held hl hc] at h
          cases h
          exact ⟨t, t', rfl, hc, rfl⟩

/-- A lease is given up by the holder of an active one. -/
lemma held_of_consumeIn {u : Unit} (h : (m.consumeIn id holder).runOn b = (.ok u, b')) :
    ∃ current, b.database.lease? (m.resource id) = some current ∧
      current.IsActive b.clock.now ∧ current.leasedBy = holder := by
  obtain ⟨t, t', ht, hc, -⟩ := consumeIn_eq_ok h
  rw [Database.lease?_of_leases ht]
  exact (LeaseTable.consume_eq_some_iff.mp hc).1

/-- The row of a lease that is given up is gone, and the others are what they were. -/
lemma lease?_of_consumeIn {u : Unit} (h : (m.consumeIn id holder).runOn b = (.ok u, b'))
    (r : Resource) :
    b'.database.lease? r = if m.resource id = r then none else b.database.lease? r := by
  obtain ⟨t, t', ht, hc, rfl⟩ := consumeIn_eq_ok h
  rw [Database.lease?_putLeases, (LeaseTable.consume_eq_some_iff.mp hc).2,
    LeaseTable.find?_erase, Database.lease?_of_leases ht]

/-- If no lease is given up, no table is changed. -/
lemma database_of_consumeIn_error {e : StoreError}
    (h : (m.consumeIn id holder).runOn b = (.error e, b')) : b'.database = b.database := by
  cases hl : b.database.leases with
  | none =>
      rw [runOn_consumeIn_of_none hl] at h
      cases h
      rfl
  | some t =>
      cases hc : t.consume b.clock.now (m.resource id) holder with
      | none =>
          rw [runOn_consumeIn_of_refused hl hc] at h
          cases h
          rfl
      | some t' =>
          rw [runOn_consumeIn_of_held hl hc] at h
          cases h

lemma keepsSetting_refuse {α : Type} (m : LeaseManager) (id : String) :
    Action.KeepsSetting (m.refuse id : Action α) :=
  (Action.keepsSetting_read _).bind fun _ =>
    (Action.keepsSetting_bump _).bind fun _ => Action.keepsSetting_throw _

/-- Taking a lease keeps the setting. -/
lemma keepsSetting_acquireIn (m : LeaseManager) (id holder : String) (d : Int64) :
    (m.acquireIn id holder d).KeepsSetting := by
  refine (Action.keepsSetting_read _).bind fun now => (Action.keepsSetting_read _).bind fun t => ?_
  cases t.acquire (m.request id holder now d) with
  | none => exact keepsSetting_refuse m id
  | some t' =>
      exact (Action.keepsSetting_change _).bind fun _ =>
        (Action.keepsSetting_bump _).bind fun _ => Action.keepsSetting_pure _

/-- Giving up a lease keeps the setting. -/
lemma keepsSetting_consumeIn (m : LeaseManager) (id holder : String) :
    (m.consumeIn id holder).KeepsSetting := by
  refine (Action.keepsSetting_read _).bind fun now => (Action.keepsSetting_read _).bind fun t => ?_
  cases t.consume now (m.resource id) holder with
  | none => exact keepsSetting_refuse m id
  | some t' => exact Action.keepsSetting_change _

/-! ### Calls on connections of their own -/

lemma runOn_acquire_of_open (m : LeaseManager) (ho : b.isOpen = true) (id holder : String) :
    (m.acquire id holder).runOn b = (m.acquireIn id holder m.duration).runOn b :=
  Action.runOn_connect_bind_of_open ho _

lemma runOn_release_of_open (m : LeaseManager) (ho : b.isOpen = true) (id holder : String) :
    (m.release id holder).runOn b = (m.consumeIn id holder).runOn b :=
  Action.runOn_connect_bind_of_open ho _

/-! ### Calls that nobody is refused -/

lemma find_of_open (ho : b.isOpen = true) (h : b.database.leases = some t) :
    m.find id b =
      .ok ((b.database.lease? (m.resource id)).filter fun l => l.IsActive b.clock.now) := by
  rw [find, Reading.bind_of_ok (Reading.connect_of_open ho)]
  exact describeIn_of_leases h m id

/-- Leases are broken whoever holds them. -/
lemma runOn_breakLease_of_open (ho : b.isOpen = true) (h : b.database.leases = some t) :
    (m.breakLease id).runOn b =
      (.ok (t.find? (m.resource id)).isSome,
        { b with database := b.database.putLeases (t.erase (m.resource id)) }) := by
  rw [breakLease, Action.runOn_connect_bind_of_open ho]
  refine Action.runOn_change_of_ok ?_
  rw [Database.leaseTable_of_leases h]
  rfl

/-- No leases are broken where there is no table of them. -/
lemma runOn_breakLease_of_none (ho : b.isOpen = true) (h : b.database.leases = none) :
    (m.breakLease id).runOn b = (.error (.database (.noSuchTable LeaseTable.name)), b) := by
  rw [breakLease, Action.runOn_connect_bind_of_open ho]
  refine Action.runOn_change_of_error ?_
  rw [Database.leaseTable_of_none h]
  rfl

/-- What there is after a lease was broken. -/
lemma lease?_of_breakLease {wasThere : Bool}
    (h : (m.breakLease id).runOn b = (.ok wasThere, b')) (r : Resource) :
    b'.database.lease? r = if m.resource id = r then none else b.database.lease? r := by
  obtain ⟨ho, h⟩ := Action.connect_bind_eq_ok.mp h
  obtain ⟨db, hdb, rfl⟩ := Action.change_eq_ok.mp h
  cases hl : b.database.leases with
  | none =>
      rw [Database.leaseTable_of_none hl] at hdb
      cases hdb
  | some t =>
      rw [Database.leaseTable_of_leases hl] at hdb
      cases hdb
      rw [Database.lease?_putLeases, LeaseTable.find?_erase, Database.lease?_of_leases hl]

lemma database_of_breakLease_error {e : StoreError}
    (h : (m.breakLease id).runOn b = (.error e, b')) : b'.database = b.database :=
  Action.database_of_connect_bind_error Action.database_of_change_error h

end LeaseManager

end LeasedStore
