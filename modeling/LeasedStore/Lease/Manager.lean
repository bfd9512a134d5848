/-
Lease managers: leases on the entities of one kind.

* `LeaseManager`: a kind, and the duration of a lease where the holder does not ask for another;
* `acquireIn`, `consumeIn`, `describeIn`: calls inside a transaction;
* `acquire`, `acquireFor`, `release`, `find`, `breakLease`: calls on a connection of their own;
* `unleased`: the condition that nobody has an active lease on the entity of a row.
-/
import LeasedStore.Backend

namespace LeasedStore

/-- A manager of the leases on the entities of one kind. -/
structure LeaseManager where
  resourceKind : String
  duration : Int64
  deriving DecidableEq, Repr

namespace LeaseManager

/-- What a lease on an entity is about. -/
def resource (m : LeaseManager) (id : String) : Resource := ⟨m.resourceKind, id⟩

/-- The active lease on an entity. -/
def describeIn (m : LeaseManager) (id : String) : Reading (Option Lease) := do
  let t ← Reading.database Database.leaseTable
  return t.active? (← Reading.now) (m.resource id)

/-- The refusal of a call about a lease that somebody else holds, or nobody. -/
def refuse {α : Type} (m : LeaseManager) (id : String) : Action α := do
  let current ← Action.read (m.describeIn id)
  Action.bump (.leaseConflict m.resourceKind)
  throw (.leaseConflict id (current.map Lease.leasedBy))

/-- The lease that a holder asks for at an instant. -/
def request (m : LeaseManager) (id holder : String) (now duration : Int64) : Lease :=
  ⟨m.resourceKind, id, holder, now, grantedDuration now duration⟩

/-- A lease taken or renewed for a duration, unless somebody else holds an active one. -/
def acquireIn (m : LeaseManager) (id holder : String) (duration : Int64) : Action Lease := do
  let lease := m.request id holder (← Action.read Reading.now) duration
  let t ← Action.read (Reading.database Database.leaseTable)
  match t.acquire lease with
  | none => m.refuse id
  | some t => do
    Action.change fun db => .ok ((), db.putLeases t)
    Action.bump (.leaseAcquired m.resourceKind)
    return lease

/-- An active lease given up by its holder. -/
def consumeIn (m : LeaseManager) (id holder : String) : Action Unit := do
  let now ← Action.read Reading.now
  let t ← Action.read (Reading.database Database.leaseTable)
  match t.consume now (m.resource id) holder with
  | none => m.refuse id
  | some t => Action.change fun db => .ok ((), db.putLeases t)

/-- A lease for the usual duration. -/
def acquire (m : LeaseManager) (id holder : String) : Action Lease := do
  Action.connect
  m.acquireIn id holder m.duration

/-- A lease for a duration. -/
def acquireFor (m : LeaseManager) (id holder : String) (duration : Duration) : Action Lease := do
  Action.connect
  m.acquireIn id holder duration.millis

/-- A lease given up. -/
def release (m : LeaseManager) (id holder : String) : Action Unit := do
  Action.connect
  m.consumeIn id holder

/-- The active lease on an entity. -/
def find (m : LeaseManager) (id : String) : Reading (Option Lease) := do
  Reading.connect
  m.describeIn id

/-- The row of an entity removed, whoever holds the lease and whether or not it is over; was there
one? -/
def breakLease (m : LeaseManager) (id : String) : Action Bool := do
  Action.connect
  Action.change fun db => do
    let t ← db.leaseTable
    return ((t.find? (m.resource id)).isSome, db.putLeases (t.erase (m.resource id)))

/-- The condition that nobody has an active lease, at an instant, on the entity whose id an
expression gives. -/
def unleased (m : LeaseManager) (idExpr : String) (now : Int64) : Binding Condition := do
  let kind ← Binding.register (.text m.resourceKind)
  let place ← Binding.register (.int now)
  return .unleased idExpr kind place

end LeaseManager

end LeasedStore
