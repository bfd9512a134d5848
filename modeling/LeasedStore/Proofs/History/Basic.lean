/-
Histories: what led to the present state of the stores, one call after the other.

Several holders act on the same backend, each through a control plane of its own.  Their steps come
one after the other, but a claim is many calls, between which others may act as well: every call of
it is a step of its own too, so the histories below cover all ways in which claims are interleaved.
A transaction is begun, makes calls and is committed or rolled back.

* `Call`, `Entry`: what is done at once, and when it was done;
* `Purpose`: what a call is after; `Entry.Acquires`, `Releases`, `Breaks`, `Writes`: it succeeded;
* `Entry.Grants`: the lease that a successful acquisition hands out;
* `ControlPlane.entries`: the calls that a step makes;
* `History`, `History.run`: the present state, and the calls that led to it and were not undone, the
  latest first.
-/
import LeasedStore.Store.Step
import LeasedStore.Proofs.Store.Rows

namespace LeasedStore

/-! ### Calls -/

/-- What is done at once. -/
inductive Call where
  | store (k : StoreKind) (s : StoreStep k.Record)
  | candidates (k : StatefulKind) (max : UInt32) (filter : List Criterion)
  /-- A call of a lease manager inside a transaction. -/
  | within (k : StoreKind) (l : LeaseCall)
  | advance (d : Duration)
  | setClock (millis : Int64)

/-- What a call is after, as far as leases are concerned. -/
inductive Purpose where
  /-- To take or renew a lease. -/
  | acquire (r : Resource) (holder : String)
  /-- To give a lease up. -/
  | release (r : Resource) (holder : String)
  /-- To remove a lease, whoever holds it. -/
  | breakLease (r : Resource)
  /-- To write an entity under a lease. -/
  | write (r : Resource) (holder : String)
  | other
  deriving DecidableEq

/-- What a call of a lease manager is after. -/
def LeaseStep.purpose (k : StoreKind) : LeaseStep → Purpose
  | .acquire id holder => .acquire (k.resource id) holder
  | .acquireFor id holder _ => .acquire (k.resource id) holder
  | .release id holder => .release (k.resource id) holder
  | .find _ => .other
  | .breakLease id => .breakLease (k.resource id)

/-- What a call of a store is after. -/
def StoreStep.purpose (k : StoreKind) : StoreStep k.Record → Purpose
  | .update e holder => .write (k.resource (Entity.id e)) holder
  | .delete id holder => .write (k.resource id) holder
  | .lease l => l.purpose k
  | _ => .other

/-- What a call of a lease manager inside a transaction is after. -/
def LeaseCall.purpose (k : StoreKind) : LeaseCall → Purpose
  | .acquire id holder _ => .acquire (k.resource id) holder
  | .consume id holder => .release (k.resource id) holder
  | .describe _ => .other

namespace Call

/-- What a call is after. -/
def purpose : Call → Purpose
  | store k s => s.purpose k
  | within k l => l.purpose k
  | _ => .other

/-- A call through the stores of a control plane; inside a transaction the connection is there. -/
def act (c : ControlPlane) : Call → Action Answer
  | store k s => do return .store k (← (c.store k).step s)
  | candidates k max filter =>
    do return .store k.kind (← (c.store k.kind).statefulStep (.candidates max filter))
  | within k l => do
    Action.connect
    return .store k (.lease (← (c.store k).leases.call l))
  | advance d => do return .instant (← Action.advance d)
  | setClock millis => do return .instant (← Action.setClock millis)

end Call

/-! ### Entries -/

/-- A call that was made: by whom, what, and on which backend. -/
structure Entry where
  plane : ControlPlane
  call : Call
  before : Backend

namespace Entry

/-- What was answered. -/
def answer (x : Entry) : Except StoreError Answer := ((x.call.act x.plane).runOn x.before).1

/-- The backend afterwards. -/
def after (x : Entry) : Backend := ((x.call.act x.plane).runOn x.before).2

/-- Was the answer something else than an error? -/
def Succeeds (x : Entry) : Prop := ∃ a, x.answer = .ok a

/-- Did a holder take or renew the lease of a resource? -/
def Acquires (x : Entry) (r : Resource) (holder : String) : Prop :=
  x.call.purpose = .acquire r holder ∧ x.Succeeds

/-- Did a holder give up the lease of a resource, without a write? -/
def Releases (x : Entry) (r : Resource) (holder : String) : Prop :=
  x.call.purpose = .release r holder ∧ x.Succeeds

/-- Was the lease of a resource broken? -/
def Breaks (x : Entry) (r : Resource) : Prop := x.call.purpose = .breakLease r ∧ x.Succeeds

/-- Did a holder update or delete the entity that a resource is? -/
def Writes (x : Entry) (r : Resource) (holder : String) : Prop :=
  x.call.purpose = .write r holder ∧ x.Succeeds

/-- Was a lease taken or renewed, and is it this one? -/
def Grants (x : Entry) (l : Lease) : Prop :=
  x.call.purpose = .acquire l.resource l.leasedBy ∧
    ∃ k, x.answer = .ok (.store k (.lease (.lease (some l))))

/-- Did the call take, give up, use up or break the lease of a resource? -/
def Touches (x : Entry) (r : Resource) : Prop :=
  (∃ holder, x.Acquires r holder ∨ x.Releases r holder ∨ x.Writes r holder) ∨ x.Breaks r

instance (x : Entry) : Decidable x.Succeeds :=
  match h : x.answer with
  | .ok a => .isTrue ⟨a, h⟩
  | .error _ => .isFalse fun hs => by obtain ⟨a, ha⟩ := hs; cases h.symm.trans ha

instance (x : Entry) (r : Resource) (holder : String) : Decidable (x.Acquires r holder) :=
  inferInstanceAs (Decidable (_ ∧ _))

instance (x : Entry) (r : Resource) (holder : String) : Decidable (x.Releases r holder) :=
  inferInstanceAs (Decidable (_ ∧ _))

instance (x : Entry) (r : Resource) : Decidable (x.Breaks r) :=
  inferInstanceAs (Decidable (_ ∧ _))

instance (x : Entry) (r : Resource) (holder : String) : Decidable (x.Writes r holder) :=
  inferInstanceAs (Decidable (_ ∧ _))

/-- The lease that is answered. -/
def lease? (x : Entry) : Option Lease :=
  match x.answer with
  | .ok (.store _ (.lease (.lease l))) => l
  | _ => none

/-- A call that answers a lease to somebody who wants to take it grants it. -/
lemma grants_iff {x : Entry} {l : Lease} : x.Grants l ↔
    x.call.purpose = .acquire l.resource l.leasedBy ∧ x.lease? = some l := by
  rw [Grants, lease?]
  refine and_congr_right fun _ => ⟨?_, fun h => ?_⟩
  · rintro ⟨k, hk⟩
    rw [hk]
  · split at h
    · next k l' ha => exact ⟨k, by rw [ha, h]⟩
    · cases h

instance (x : Entry) (l : Lease) : Decidable (x.Grants l) := decidable_of_iff _ grants_iff.symm

end Entry

/-! ### The calls of a step -/

namespace ControlPlane

/-- The calls of the attempt to claim an entity, the latest first. -/
def claimOneEntries (c : ControlPlane) (k : StoreKind) (holder : String)
    (filter : List Criterion) (id : String) (b : Backend) : List Entry :=
  let take : Entry := ⟨c, .store k (.lease (.acquire id holder)), b⟩
  match take.answer with
  | .error _ => [take]
  | .ok _ =>
    let look : Entry := ⟨c, .store k (.findMatching id filter), take.after⟩
    match (c.store k).findMatching id filter take.after with
    | .ok none => [⟨c, .store k (.lease (.release id holder)), take.after⟩, look, take]
    | _ => [look, take]

/-- The calls of a claim, the latest first. -/
def claimEntries (c : ControlPlane) (k : StoreKind) (holder : String)
    (filter : List Criterion) : List String → Backend → List Entry
  | [], _ => []
  | id :: rest, b =>
    match ((c.store k).claimOne holder filter id).runOn b with
    | (.ok _, b') => c.claimEntries k holder filter rest b' ++
      c.claimOneEntries k holder filter id b
    | (.error _, _) => c.claimOneEntries k holder filter id b

/-- The calls that a step makes, the latest first. -/
def entries (c : ControlPlane) : Step → Backend → List Entry
  | .store k s, b => [⟨c, .store k s, b⟩]
  | .stateful k (.candidates max filter), b => [⟨c, .candidates k max filter, b⟩]
  | .stateful k (.claim holder ids filter), b => c.claimEntries k.kind holder filter ids b
  | .stateful k (.next holder max filter), b =>
    match (c.store k.kind).unleasedCandidates max filter b with
    | .ok es =>
      c.claimEntries k.kind holder filter (es.map Entity.id) b ++ [⟨c, .candidates k max filter, b⟩]
    | .error _ => [⟨c, .candidates k max filter, b⟩]
  | .stateful k (.transition id change holder), b =>
    match (c.store k.kind).find id b with
    | .ok (some e) =>
      [⟨c, .store k.kind (.update (StatefulEntity.change change b.clock.now e) holder), b⟩,
        ⟨c, .store k.kind (.find id), b⟩]
    | _ => [⟨c, .store k.kind (.find id), b⟩]
  | .advance d, b => [⟨c, .advance d, b⟩]
  | .setClock millis, b => [⟨c, .setClock millis, b⟩]

end ControlPlane

/-! ### Histories -/

/-- Is the step a move of the clock? -/
def Step.isClockMove : Step → Bool
  | .advance _ | .setClock _ => true
  | _ => false

/-- The present state, and how it came about. -/
structure History where
  backend : Backend
  /-- The calls that were made and not undone, the latest first. -/
  past : List Entry
  /-- What the transaction that is open, if there is one, would go back to. -/
  saved : Option (Database × List Entry)

/-- What can happen next. -/
inductive Move where
  /-- A step of somebody whose control plane it is. -/
  | step (c : ControlPlane) (s : Step)
  | begin
  | within (c : ControlPlane) (k : StoreKind) (l : LeaseCall)
  | commit
  | rollback

namespace History

/-- The beginning of a history. -/
def start (b : Backend) : History := ⟨b, [], none⟩

/-- The history after a move; none if it is not its turn.  While a transaction is open nothing but
its own calls and moves of the clock can happen. -/
def next (h : History) : Move → Option History
  | .step c s =>
    if h.saved.isNone || s.isClockMove then
      some { h with
        backend := ((c.step s).runOn h.backend).2
        past := c.entries s h.backend ++ h.past }
    else none
  | .begin =>
    if h.saved.isNone && h.backend.isOpen then
      some { h with saved := some (h.backend.database, h.past) }
    else none
  | .within c k l =>
    let x : Entry := ⟨c, .within k l, h.backend⟩
    if h.saved.isSome then some { h with backend := x.after, past := x :: h.past } else none
  | .commit => if h.saved.isSome then some { h with saved := none } else none
  | .rollback =>
    h.saved.map fun s => ⟨{ h.backend with database := s.1 }, s.2, none⟩

/-- The history after some moves, one after the other. -/
def run : List Move → History → Option History
  | [], h => some h
  | m :: rest, h => (h.next m).bind (run rest)

end History

end LeasedStore
