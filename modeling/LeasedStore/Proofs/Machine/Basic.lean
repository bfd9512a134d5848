/-
The machine that stores and leases are an implementation of.

It has a map from ids to entities for every kind, and the leases.  There are no tables, no rows, no
documents and no transactions in it.  A lease that is over is kept, since the clock may be set back.

* `Request`, `Reply`: what is asked of the stores, and what they answer;
* `Request.act`, `Request.runAll`: what the stores do;
* `Machine`, `Machine.step`, `Machine.run`: what the machine does;
* `Request.leaves?`, `lastLeft`: what the requests so far have left under an id.
-/
import Mathlib.Logic.Function.Basic
import LeasedStore.Proofs.Entity.Faithful
import LeasedStore.Proofs.Store.Rows
import LeasedStore.Store.Step

namespace LeasedStore

/-! ### Requests -/

/-- What is asked of the stores of a control plane. -/
inductive Request where
  | create (k : StoreKind) (e : k.Record)
  | find (k : StoreKind) (id : String)
  | update (k : StoreKind) (e : k.Record) (holder : String)
  | delete (k : StoreKind) (id holder : String)
  | lease (k : StoreKind) (l : LeaseStep)
  /-- Calls of a lease manager in one transaction, whose work may end in an error of its own. -/
  | together (k : StoreKind) (calls : List LeaseCall) (failure : Option StoreError)
  | advance (d : Duration)
  | setClock (millis : Int64)

/-- What is answered. -/
inductive Reply where
  | done
  | entity (k : StoreKind) (e : Option k.Record)
  | lease (a : LeaseAnswer)
  | leases (as : List LeaseAnswer)
  /-- What the clock shows. -/
  | instant (millis : Int64)

namespace Request

/-- What the stores of a control plane do. -/
def act (c : ControlPlane) : Request → Action Reply
  | create k e => do
    (c.store k).create e
    return .done
  | find k id => do return .entity k (← Action.read ((c.store k).find id))
  | update k e holder => do
    (c.store k).update e holder
    return .done
  | delete k id holder => do
    (c.store k).delete id holder
    return .done
  | lease k l => do return .lease (← (c.store k).leases.step l)
  | together k calls failure => do
    return .leases (← (c.store k).leases.callTogether calls failure)
  | advance d => do return .instant (← Action.advance d)
  | setClock millis => do return .instant (← Action.setClock millis)

/-- The answers to requests, each made through a control plane of its own, and the backend after
them. -/
def runAll : List (ControlPlane × Request) → Backend → List (Except StoreError Reply) × Backend
  | [], b => ([], b)
  | (c, r) :: rest, b =>
    let (answer, b) := (r.act c).runOn b
    let (answers, b) := runAll rest b
    (answer :: answers, b)

/-- Can the documents of the entity that a request brings be read again? -/
def IsStorable : Request → Prop
  | create _ e => Entity.IsStorable e
  | update _ e _ => Entity.IsStorable e
  | _ => True

/-- An entity, or none, that is left under an id, as seen from another id; none if that is another
one indeed. -/
def leftAt {k' : StoreKind} (id' : String) (e? : Option k'.Record) (k : StoreKind) (id : String) :
    Option (Option k.Record) :=
  if h : k' = k then if id' = id then some (h ▸ e?) else none else none

/-- What a request leaves under an id if it succeeds; none if it leaves alone what there is. -/
def leaves? (k : StoreKind) (id : String) : Request → Option (Option k.Record)
  | create _ e | update _ e _ => leftAt (Entity.id e) (some e) k id
  | delete k' id' _ => leftAt id' (none : Option k'.Record) k id
  | _ => none

end Request

/-- What requests, in their order and with their answers, have left under an id. -/
def lastLeft (k : StoreKind) (id : String) :
    List (Request × Except StoreError Reply) → Option k.Record → Option k.Record
  | [], e? => e?
  | (r, answer) :: rest, e? =>
    lastLeft k id rest (if answer.isOk then (r.leaves? k id).getD e? else e?)

/-! ### The machine -/

/-- What there is: the entities of every kind, the latest lease of every resource, over or not, and
the clock. -/
structure Machine where
  entities : (k : StoreKind) → String → Option k.Record
  leases : Resource → Option Lease
  clock : Clock

namespace Machine

/-- Nothing is stored, and nobody has a lease. -/
def start (now : Int64) : Machine := ⟨fun _ _ => none, fun _ => none, ⟨now⟩⟩

/-- The active lease of a resource. -/
def active? (m : Machine) (r : Resource) : Option Lease :=
  (m.leases r).filter fun l => l.IsActive m.clock.now

/-- Has a holder an active lease? -/
def isHeldBy (m : Machine) (r : Resource) (holder : String) : Bool :=
  (m.active? r).any fun l => l.leasedBy = holder

/-- Has anybody else an active lease? -/
def isHeldByOther (m : Machine) (r : Resource) (holder : String) : Bool :=
  (m.active? r).any fun l => l.leasedBy ≠ holder

/-- The machine with an entity, or none, under an id. -/
def setEntity (m : Machine) (k : StoreKind) (id : String) (e? : Option k.Record) : Machine :=
  { m with entities := Function.update m.entities k (Function.update (m.entities k) id e?) }

/-- The machine with a lease, or none, of a resource. -/
def setLease (m : Machine) (r : Resource) (l? : Option Lease) : Machine :=
  { m with leases := Function.update m.leases r l? }

/-- The refusal of somebody who has no lease; it names who has, if there is anybody. -/
def conflict (m : Machine) (k : StoreKind) (id : String) : StoreError :=
  .leaseConflict id ((m.active? (k.resource id)).map Lease.leasedBy)

/-- A lease taken or renewed, unless somebody else has an active one. -/
def acquire (m : Machine) (k : StoreKind) (id holder : String) (duration : Int64) :
    Except StoreError LeaseAnswer × Machine :=
  if m.isHeldByOther (k.resource id) holder then (.error (m.conflict k id), m)
  else
    let l : Lease :=
      ⟨k.schema.kind, id, holder, m.clock.now, grantedDuration m.clock.now duration⟩
    (.ok (.lease (some l)), m.setLease (k.resource id) (some l))

/-- An active lease given up by its holder. -/
def giveUp (m : Machine) (k : StoreKind) (id holder : String) :
    Except StoreError LeaseAnswer × Machine :=
  if m.isHeldBy (k.resource id) holder then (.ok .done, m.setLease (k.resource id) none)
  else (.error (m.conflict k id), m)

/-- An entity overwritten or removed by the holder of its lease, which is used up. -/
def write (m : Machine) (k : StoreKind) (id holder : String) (e? : Option k.Record) :
    Except StoreError Reply × Machine :=
  if m.isHeldBy (k.resource id) holder then
    if (m.entities k id).isSome then
      (.ok .done, (m.setEntity k id e?).setLease (k.resource id) none)
    else (.error (.notFound id), m)
  else (.error (m.conflict k id), m)

/-- A call of a lease manager; `duration` is that of leases for which no other is asked. -/
def leaseStep (m : Machine) (k : StoreKind) (duration : Int64) :
    LeaseStep → Except StoreError LeaseAnswer × Machine
  | .acquire id holder => m.acquire k id holder duration
  | .acquireFor id holder d => m.acquire k id holder d.millis
  | .release id holder => m.giveUp k id holder
  | .find id => (.ok (.lease (m.active? (k.resource id))), m)
  | .breakLease id =>
    (.ok (.broken (m.leases (k.resource id)).isSome), m.setLease (k.resource id) none)

/-- A call of a lease manager inside a transaction. -/
def leaseCall (m : Machine) (k : StoreKind) : LeaseCall → Except StoreError LeaseAnswer × Machine
  | .acquire id holder duration => m.acquire k id holder duration
  | .consume id holder => m.giveUp k id holder
  | .describe id => (.ok (.lease (m.active? (k.resource id))), m)

/-- Calls of a lease manager inside a transaction, up to the first that fails. -/
def leaseCalls (m : Machine) (k : StoreKind) :
    List LeaseCall → Except StoreError (List LeaseAnswer) × Machine
  | [] => (.ok [], m)
  | l :: rest =>
    match m.leaseCall k l with
    | (.error e, m') => (.error e, m')
    | (.ok a, m') => ((m'.leaseCalls k rest).1.map (a :: ·), (m'.leaseCalls k rest).2)

/-- Calls of a lease manager in one transaction, of which nothing lasts unless all of it
succeeds. -/
def leasesTogether (m : Machine) (k : StoreKind) (calls : List LeaseCall)
    (failure : Option StoreError) : Except StoreError (List LeaseAnswer) × Machine :=
  match m.leaseCalls k calls with
  | (.error e, _) => (.error e, m)
  | (.ok as, m') =>
    match failure with
    | some e => (.error e, m)
    | none => (.ok as, m')

/-- What the machine does if a request is made through a control plane. -/
def step (m : Machine) (c : ControlPlane) : Request → Except StoreError Reply × Machine
  | .create k e =>
    if (m.entities k (Entity.id e)).isSome then (.error (.duplicateId (Entity.id e)), m)
    else (.ok .done, m.setEntity k (Entity.id e) (some e))
  | .find k id => (.ok (.entity k (m.entities k id)), m)
  | .update k e holder => m.write k (Entity.id e) holder (some e)
  | .delete k id holder => m.write k id holder none
  | .lease k l =>
    let out := m.leaseStep k (c.store k).leaseDuration l
    (out.1.map .lease, out.2)
  | .together k calls failure =>
    let out := m.leasesTogether k calls failure
    (out.1.map .leases, out.2)
  | .advance d => (.ok (.instant (m.clock.advance d).now), { m with clock := m.clock.advance d })
  | .setClock millis => (.ok (.instant millis), { m with clock := ⟨millis⟩ })

/-- The answers of the machine to requests, and what there is after them. -/
def run : List (ControlPlane × Request) → Machine → List (Except StoreError Reply) × Machine
  | [], m => ([], m)
  | (c, r) :: rest, m =>
    let (answer, m) := m.step c r
    let (answers, m) := run rest m
    (answer :: answers, m)

end Machine

end LeasedStore
