/-
A machine that forgets a lease as soon as it is over.

It has the tables of entities as the stores have them, but of the leases only those that are active:
a move of the clock drops all others.  So whoever has a lease in it has an active one, and no call
has to ask whether a lease is over.

* `Step.runAll`, `Step.IsForward`: what the stores do over some steps, and does the clock never go
  back?
* `Answer.masked`: an answer that does not tell whether there was a row to remove;
* `Forgetful`: the machine, none of whose leases is over;
* `Forgetful.acquireIn`, `consumeIn`: leases taken and given up, without a look at the clock;
* `Forgetful.step`, `Forgetful.run`: what the machine does.
-/
import LeasedStore.Store.Step
import LeasedStore.Proofs.Lease.Active

namespace LeasedStore

/-! ### Runs -/

namespace Step

/-- The clock after a step. -/
def clock (c : Clock) : Step → Clock
  | advance d => c.advance d
  | setClock millis => c.set millis
  | _ => c

/-- Does the clock never go back over some steps? -/
def IsForward : List (ControlPlane × Step) → Clock → Prop
  | [], _ => True
  | (_, s) :: rest, c => c.now ≤ (s.clock c).now ∧ IsForward rest (s.clock c)

/-- The answers to steps, each made through a control plane of its own, and the backend after
them. -/
def runAll : List (ControlPlane × Step) → Backend → List (Except StoreError Answer) × Backend
  | [], b => ([], b)
  | (c, s) :: rest, b =>
    let (answer, b) := (c.step s).runOn b
    let (answers, b) := runAll rest b
    (answer :: answers, b)

end Step

/-- An answer that does not tell whether there was a row to remove. -/
def LeaseAnswer.masked : LeaseAnswer → LeaseAnswer
  | broken _ => done
  | a => a

/-- An answer that does not tell whether there was a row of a lease to remove. -/
def StoreAnswer.masked {α : Type} : StoreAnswer α → StoreAnswer α
  | lease a => lease a.masked
  | a => a

/-- An answer that does not tell whether there was a row of a lease to remove. -/
def Answer.masked : Answer → Answer
  | store k a => store k a.masked
  | a => a

/-- The answers to steps, but for whether broken leases had rows. -/
def Step.answers (steps : List (ControlPlane × Step)) (b : Backend) :
    List (Except StoreError Answer) :=
  (runAll steps b).1.map fun a => a.map Answer.masked

/-! ### The machine -/

/-- The leases that are active at an instant. -/
def LeaseTable.activeAt (t : LeaseTable) (now : Int64) : LeaseTable where
  rows := t.rows.filter fun l => l.IsActive now
  resources_nodup := t.resources_nodup.sublist (List.filter_sublist.map _)

/-- What there is: the tables of entities, the leases that are active, whether connections can be
had, and the clock. -/
structure Forgetful where
  tables : List Table
  leases : LeaseTable
  isOpen : Bool
  clock : Clock
  /-- No lease is over. -/
  isActive : ∀ l ∈ leases.rows, l.IsActive clock.now

/-- What a call comes to, and the machine afterwards. -/
abbrev Forgetful.Act (α : Type) := ExceptT StoreError (StateM Forgetful) α

namespace Forgetful

/-- Nobody has a lease. -/
def start (b : Backend) : Forgetful where
  tables := b.database.tables
  leases := .empty
  isOpen := b.isOpen
  clock := b.clock
  isActive _ hl := by cases hl

/-- The machine as it is read from: all the rows of leases there are those of active ones. -/
def backend (m : Forgetful) : Backend := ⟨⟨some m.leases, m.tables⟩, m.isOpen, m.clock, .empty⟩

/-- The machine with one more lease, or a renewed one. -/
def remember (m : Forgetful) (l : Lease) (hl : l.IsActive m.clock.now) : Forgetful :=
  { m with
    leases := m.leases.insert l
    isActive := fun x hx => (List.mem_cons.mp hx).elim (fun h => h ▸ hl) fun h =>
      m.isActive x (List.mem_filter.mp h).1 }

/-- The machine without the lease of a resource. -/
def forget (m : Forgetful) (r : Resource) : Forgetful :=
  { m with
    leases := m.leases.erase r
    isActive := fun x hx => m.isActive x (List.mem_filter.mp hx).1 }

/-- The machine with other tables of entities. -/
def setTables (m : Forgetful) (tables : List Table) : Forgetful := { m with tables := tables }

/-- The machine once the clock was moved: leases that are over are forgotten. -/
def setClock (m : Forgetful) (c : Clock) : Forgetful :=
  { m with
    leases := m.leases.activeAt c.now
    clock := c
    isActive := fun _ hx => of_decide_eq_true (List.mem_filter.mp hx).2 }

/-- The refusal of a call about a lease that somebody else has, or nobody. -/
def conflict (m : Forgetful) (r : Resource) : StoreError :=
  .leaseConflict r.id ((m.leases.find? r).map Lease.leasedBy)

/-! ### Calls -/

namespace Act

variable {α : Type}

/-- What an act comes to. -/
def runOn (f : Act α) (m : Forgetful) : Except StoreError α × Forgetful := f m

/-- Something that is read. -/
def read (r : Reading α) : Act α := fun m => (r m.backend, m)

/-- A connection, as long as they can be had. -/
def connect : Act Unit := read Reading.connect

/-- A change of the tables of entities, or its refusal. -/
def change (f : Database → Except DatabaseError (α × Database)) : Act α := fun m =>
  match f m.backend.database with
  | .ok (a, db) => (.ok a, m.setTables db.tables)
  | .error e => (.error (.database e), m)

/-- What an act comes to, errors included, as a result. -/
def attempt (f : Act α) : Act (Except StoreError α) := fun m => (.ok (f.runOn m).1, (f.runOn m).2)

/-- All of an act, or nothing of it. -/
def transaction (f : Act α) : Act α := do
  connect
  fun m =>
    match f.runOn m with
    | (.ok a, m') => (.ok a, m')
    | (.error e, _) => (.error e, m)

end Act

open Act

/-- A lease taken or renewed, unless somebody else has one. -/
def acquireIn (lm : LeaseManager) (id holder : String) (duration : Int64) : Act Lease := fun m =>
  if (m.leases.find? (lm.resource id)).any fun l => l.leasedBy ≠ holder then
    (.error (m.conflict (lm.resource id)), m)
  else
    (.ok (lm.request id holder m.clock.now duration),
      m.remember _ (lm.isActive_request id holder m.clock.now duration))

/-- A lease given up by whoever has it. -/
def consumeIn (lm : LeaseManager) (id holder : String) : Act Unit := fun m =>
  if (m.leases.find? (lm.resource id)).any fun l => l.leasedBy = holder then
    (.ok (), m.forget (lm.resource id))
  else (.error (m.conflict (lm.resource id)), m)

/-- A lease for a duration. -/
def acquireFor (lm : LeaseManager) (id holder : String) (duration : Int64) : Act Lease := do
  connect
  acquireIn lm id holder duration

/-- A lease given up. -/
def release (lm : LeaseManager) (id holder : String) : Act Unit := do
  connect
  consumeIn lm id holder

/-- The lease on an entity. -/
def find (lm : LeaseManager) (id : String) : Act (Option Lease) := do
  connect
  fun m => (.ok (m.leases.find? (lm.resource id)), m)

/-- A lease forgotten, whoever has it. -/
def breakLease (lm : LeaseManager) (id : String) : Act Unit := do
  connect
  fun m => (.ok (), m.forget (lm.resource id))

/-- A call of a lease manager. -/
def leaseStep (lm : LeaseManager) : LeaseStep → Act LeaseAnswer
  | .acquire id holder => do return .lease (some (← acquireFor lm id holder lm.duration))
  | .acquireFor id holder d => do return .lease (some (← acquireFor lm id holder d.millis))
  | .release id holder => do
    release lm id holder
    return .done
  | .find id => do return .lease (← find lm id)
  | .breakLease id => do
    breakLease lm id
    return .done

section Stores

variable {α : Type}

/-- A new entity put in, unless its id is taken. -/
def create [Entity α] (s : EntityStore α) (e : α) : Act Unit := do
  connect
  match ← (change (s.insertRow e)).attempt with
  | .ok () => return ()
  | .error (.database report) =>
    if report.isUniqueViolation then throw (.duplicateId (Entity.id e))
    else throw (.database report)
  | .error other => throw other

/-- A write of one entity by whoever has its lease, which the write uses up. -/
def write [Entity α] (s : EntityStore α) (id holder : String)
    (write : Table → Except DatabaseError (Option Table)) : Act Unit :=
  transaction do
    consumeIn s.leases id holder
    if ← change (s.writeTable write) then pure () else throw (.notFound id)

/-- An entity overwritten by whoever has its lease. -/
def update [Entity α] (s : EntityStore α) (e : α) (holder : String) : Act Unit :=
  write s (Entity.id e) holder fun t => t.replace (t.definition.row (Entity.params e))

/-- An entity removed by whoever has its lease. -/
def delete [Entity α] (s : EntityStore α) (id holder : String) : Act Unit :=
  write s id holder fun t => .ok (t.erase (.text id))

/-- A call of a store. -/
def storeStep [Entity α] (s : EntityStore α) : StoreStep α → Act (StoreAnswer α)
  | .create e => do
    create s e
    return .done
  | .find id => do return .entity (← read (s.find id))
  | .update e holder => do
    update s e holder
    return .done
  | .delete id holder => do
    delete s id holder
    return .done
  | .query spec => do return .entities (← read (s.readAll spec))
  | .count filter => do return .count (← read (s.count filter))
  | .findMatching id filter => do return .entity (← read (s.findMatching id filter))
  | .findFirst c => do return .entity (← read (s.findFirst c))
  | .lease l => do return .lease (← leaseStep s.leases l)

/-- An entity leased and read again: none if somebody else has its lease, or it is gone, or does not
match any more. -/
def claimOne [Entity α] (s : EntityStore α) (holder : String) (filter : List Criterion)
    (id : String) : Act (Option α) := do
  match ← (acquireFor s.leases id holder s.leases.duration).attempt with
  | .error e => if e.isLeaseConflict then return none else throw e
  | .ok _ =>
    match ← read (s.findMatching id filter) with
    | some current => return some current
    | none => do
      release s.leases id holder
      return none

/-- The candidates that could be leased and still match, in their order; each of them is leased. -/
def claim [Entity α] (s : EntityStore α) (holder : String) (filter : List Criterion) :
    List String → Act (List α)
  | [] => pure []
  | id :: rest => do
    let claimed ← claimOne s holder filter id
    return claimed.toList ++ (← claim s holder filter rest)

/-- Entities without a lease that match a filter, at most so many, leased by a holder. -/
def nextNotLeased [StatefulEntity α] (s : EntityStore α) (holder : String) (max : UInt32)
    (filter : List Criterion) : Act (List α) := do
  let candidates ← read (s.unleasedCandidates max filter)
  claim s holder filter (candidates.map Entity.id)

/-- The entity of an id after a change of its state by whoever has its lease, if there is one. -/
def transition [StatefulEntity α] (s : EntityStore α) (id : String)
    (c : StateChange (StatefulEntity.State α)) (holder : String) : Act (Option α) := do
  match ← read (s.find id) with
  | none => return none
  | some e => do
    let changed := StatefulEntity.change c (← read Reading.now) e
    update s changed holder
    return some changed

/-- A call about states. -/
def statefulStep [StatefulEntity α] (s : EntityStore α) :
    StatefulStep α → Act (StoreAnswer α)
  | .candidates max filter => do return .entities (← read (s.unleasedCandidates max filter))
  | .claim holder candidates filter => do return .entities (← claim s holder filter candidates)
  | .next holder max filter => do return .entities (← nextNotLeased s holder max filter)
  | .transition id c holder => do return .entity (← transition s id c holder)

end Stores

/-! ### Runs -/

/-- What the machine does if a step is made through a control plane. -/
def step (c : ControlPlane) : Step → Act Answer
  | .store k s => do return .store k (← storeStep (c.store k) s)
  | .stateful k s => do return .store k.kind (← statefulStep (c.store k.kind) s)
  | .advance d => fun m => (.ok (.instant (m.clock.advance d).now), m.setClock (m.clock.advance d))
  | .setClock millis => fun m => (.ok (.instant millis), m.setClock (m.clock.set millis))

/-- The answers of the machine to steps, and the machine after them. -/
def run : List (ControlPlane × Step) → Forgetful → List (Except StoreError Answer) × Forgetful
  | [], m => ([], m)
  | (c, s) :: rest, m =>
    let (answer, m) := (step c s).runOn m
    let (answers, m) := run rest m
    (answer :: answers, m)

end Forgetful

end LeasedStore
