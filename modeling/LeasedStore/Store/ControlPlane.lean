/-
The stores of a control plane, one for each kind of entities, over one backend.

* `ControlPlane`: who we are when we hold leases, for how long, and the size of pages;
* `ControlPlane.store`: the store of a kind;
* `ControlPlane.ensureSchema`: all tables created, that of the leases first.
-/
import LeasedStore.Store.Claim

namespace LeasedStore

/-- The stores of a control plane. -/
structure ControlPlane where
  /-- The name under which we hold leases. -/
  holderId : String
  leaseDuration : Int64
  pageSize : UInt32
  deriving DecidableEq, Repr

namespace ControlPlane

/-- The store of a kind. -/
def store (c : ControlPlane) (k : StoreKind) : EntityStore k.Record :=
  .new k.Record c.leaseDuration c.pageSize

/-- The definitions of all tables, that of the leases first. -/
def definitions : List Definition :=
  .createLeases :: StoreKind.all.map fun k => .create k.schema.tableDef

/-- All tables created, unless they are there. -/
def ensureSchema : Action Unit := Action.define definitions

end ControlPlane

end LeasedStore
