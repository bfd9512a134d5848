/-
The five kinds of entities that the control plane keeps.

* `StoreKind`, `StoreKind.Record`: the kinds and the entities of each;
* `StatefulKind`: those of them whose entities have a state.
-/
import LeasedStore.Entity.Asset
import LeasedStore.Entity.PolicyDefinition
import LeasedStore.Entity.ContractDefinition
import LeasedStore.Entity.ContractNegotiation
import LeasedStore.Entity.TransferProcess

namespace LeasedStore

/-- A kind of entities. -/
inductive StoreKind where
  | asset | policyDefinition | contractDefinition | contractNegotiation | transferProcess
  deriving DecidableEq, Repr

namespace StoreKind

/-- The entities of a kind. -/
def Record : StoreKind → Type
  | asset => Asset
  | policyDefinition => PolicyDefinition
  | contractDefinition => ContractDefinition
  | contractNegotiation => ContractNegotiation
  | transferProcess => TransferProcess

instance instEntity : (k : StoreKind) → Entity k.Record
  | asset => inferInstanceAs (Entity Asset)
  | policyDefinition => inferInstanceAs (Entity PolicyDefinition)
  | contractDefinition => inferInstanceAs (Entity ContractDefinition)
  | contractNegotiation => inferInstanceAs (Entity ContractNegotiation)
  | transferProcess => inferInstanceAs (Entity TransferProcess)

/-- How the entities of a kind lie in the database. -/
def schema (k : StoreKind) : EntitySchema := Entity.schema k.Record

/-- All kinds, in the order in which their tables are created. -/
def all : List StoreKind :=
  [asset, contractDefinition, contractNegotiation, policyDefinition, transferProcess]

/-- The kind of a name. -/
def ofName? (name : String) : Option StoreKind := all.find? fun k => k.schema.kind = name

end StoreKind

/-- A kind of entities with a state. -/
inductive StatefulKind where
  | contractNegotiation | transferProcess
  deriving DecidableEq, Repr

namespace StatefulKind

/-- The kind as one of all kinds. -/
def kind : StatefulKind → StoreKind
  | contractNegotiation => .contractNegotiation
  | transferProcess => .transferProcess

instance instStatefulEntity : (k : StatefulKind) → StatefulEntity k.kind.Record
  | contractNegotiation => inferInstanceAs (StatefulEntity ContractNegotiation)
  | transferProcess => inferInstanceAs (StatefulEntity TransferProcess)

/-- The kind with states that a kind is. -/
def ofKind? : StoreKind → Option StatefulKind
  | .contractNegotiation => some contractNegotiation
  | .transferProcess => some transferProcess
  | _ => none

end StatefulKind

end LeasedStore
