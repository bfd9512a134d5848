/-
Steps: what holders do with the stores of a control plane, one thing after the other.

* `LeaseStep`, `StoreStep`, `StatefulStep`: calls of a lease manager and of a store;
* `LeaseCall`: calls of a lease manager inside a transaction;
* `Step`: a call, or a move of the clock in either direction;
* `Answer`: what a step answers;
* `ControlPlane.run`: the answers to some steps, and the backend after them; a step that fails is
  answered by its error and the run goes on.
-/
import LeasedStore.Store.ControlPlane

namespace LeasedStore

/-! ### Leases -/

/-- A call of a lease manager. -/
inductive LeaseStep where
  | acquire (id holder : String)
  | acquireFor (id holder : String) (duration : Duration)
  | release (id holder : String)
  | find (id : String)
  | breakLease (id : String)
  deriving DecidableEq, Repr

/-- A call of a lease manager inside a transaction. -/
inductive LeaseCall where
  | acquire (id holder : String) (duration : Int64)
  | consume (id holder : String)
  | describe (id : String)
  deriving DecidableEq, Repr

/-- What a call of a lease manager answers. -/
inductive LeaseAnswer where
  | done
  | lease (l : Option Lease)
  /-- Was there a row to remove? -/
  | broken (b : Bool)
  deriving DecidableEq, Repr

namespace LeaseManager

/-- The answer to a call. -/
def step (m : LeaseManager) : LeaseStep → Action LeaseAnswer
  | .acquire id holder => do return .lease (some (← m.acquire id holder))
  | .acquireFor id holder d => do return .lease (some (← m.acquireFor id holder d))
  | .release id holder => do
    m.release id holder
    return .done
  | .find id => do return .lease (← Action.read (m.find id))
  | .breakLease id => do return .broken (← m.breakLease id)

/-- The answer to a call inside a transaction. -/
def call (m : LeaseManager) : LeaseCall → Action LeaseAnswer
  | .acquire id holder duration => do return .lease (some (← m.acquireIn id holder duration))
  | .consume id holder => do
    m.consumeIn id holder
    return .done
  | .describe id => do return .lease (← Action.read (m.describeIn id))

/-- The answers to some calls, up to the first that fails. -/
def callAll (m : LeaseManager) : List LeaseCall → Action (List LeaseAnswer)
  | [] => pure []
  | c :: rest => do
    let a ← m.call c
    return a :: (← m.callAll rest)

/-- The answers to some calls in one transaction, whose work may end in an error of its own. -/
def callTogether (m : LeaseManager) (calls : List LeaseCall) (failure : Option StoreError) :
    Action (List LeaseAnswer) :=
  Action.transaction do
    let answers ← m.callAll calls
    match failure with
    | some e => throw e
    | none => return answers

end LeaseManager

/-! ### Stores -/

/-- A call of a store. -/
inductive StoreStep (α : Type) where
  | create (e : α)
  | find (id : String)
  | update (e : α) (holder : String)
  | delete (id holder : String)
  | query (spec : QuerySpec)
  | count (filter : List Criterion)
  | findMatching (id : String) (filter : List Criterion)
  | findFirst (c : Criterion)
  | lease (l : LeaseStep)

/-- A call of a store of entities with a state. -/
inductive StatefulStep (α : Type) [StatefulEntity α] where
  | candidates (max : UInt32) (filter : List Criterion)
  | claim (holder : String) (candidates : List String) (filter : List Criterion)
  | next (holder : String) (max : UInt32) (filter : List Criterion)
  | transition (id : String) (c : StateChange (StatefulEntity.State α)) (holder : String)

/-- What a call of a store answers. -/
inductive StoreAnswer (α : Type) where
  | done
  | entity (e : Option α)
  | entities (es : List α)
  | count (n : Nat)
  | lease (a : LeaseAnswer)

namespace EntityStore

/-- The answer to a call. -/
def step {α : Type} [Entity α] (s : EntityStore α) : StoreStep α → Action (StoreAnswer α)
  | .create e => do
    s.create e
    return .done
  | .find id => do return .entity (← Action.read (s.find id))
  | .update e holder => do
    s.update e holder
    return .done
  | .delete id holder => do
    s.delete id holder
    return .done
  | .query spec => do return .entities (← Action.read (s.readAll spec))
  | .count filter => do return .count (← Action.read (s.count filter))
  | .findMatching id filter => do return .entity (← Action.read (s.findMatching id filter))
  | .findFirst c => do return .entity (← Action.read (s.findFirst c))
  | .lease l => do return .lease (← s.leases.step l)

/-- The answer to a call about states. -/
def statefulStep {α : Type} [StatefulEntity α] (s : EntityStore α) :
    StatefulStep α → Action (StoreAnswer α)
  | .candidates max filter => do
    return .entities (← Action.read (s.unleasedCandidates max filter))
  | .claim holder candidates filter => do
    return .entities (← s.claim holder filter candidates)
  | .next holder max filter => do return .entities (← s.nextNotLeased holder max filter)
  | .transition id c holder => do return .entity (← s.transition id c holder)

end EntityStore

/-! ### Runs -/

/-- A call of a store, or a move of the clock. -/
inductive Step where
  | store (k : StoreKind) (s : StoreStep k.Record)
  | stateful (k : StatefulKind) (s : StatefulStep k.kind.Record)
  | advance (d : Duration)
  | setClock (millis : Int64)

/-- What a step answers. -/
inductive Answer where
  | store (k : StoreKind) (a : StoreAnswer k.Record)
  /-- What the clock shows. -/
  | instant (millis : Int64)

namespace ControlPlane

/-- The answer to a step. -/
def step (c : ControlPlane) : Step → Action Answer
  | .store k s => do return .store k (← (c.store k).step s)
  | .stateful k s => do return .store k.kind (← (c.store k.kind).statefulStep s)
  | .advance d => do return .instant (← Action.advance d)
  | .setClock millis => do return .instant (← Action.setClock millis)

/-- The answers to some steps, and the backend after them. -/
def run (c : ControlPlane) : List Step → Backend → List (Except StoreError Answer) × Backend
  | [], b => ([], b)
  | s :: rest, b =>
    let (answer, b) := (c.step s).runOn b
    let (answers, b) := c.run rest b
    (answer :: answers, b)

end ControlPlane

end LeasedStore
