/-
Looking entities up by criteria.

* `EntityStore.count`: how many entities match a filter;
* `EntityStore.findMatching`: the entity of an id, provided that it matches a filter;
* `EntityStore.findFirst`: the first entity that satisfies a criterion;
* `EntityStore.findCorrelated`, `ContractNegotiation.findAgreement`: look-ups by the ids that
  counter-parties know.
-/
import LeasedStore.Store.Page
import LeasedStore.Store.Kind

namespace LeasedStore

namespace EntityStore

variable {α : Type} [Entity α]

/-- How many entities match a filter. -/
def count (s : EntityStore α) (filter : List Criterion) : Reading Nat := do
  let query ← Reading.lift ((s.mapping.count .sqlite filter).mapError .invalidQuery)
  Reading.connect
  Reading.database fun db => db.count query

/-- The query for the first entity that matches a filter. -/
def firstOf (filter : List Criterion) : QuerySpec :=
  { QuerySpec.new with filter := filter, limit := 1 }

/-- The entity of an id, provided that it matches a filter. -/
def findMatching (s : EntityStore α) (id : String) (filter : List Criterion) :
    Reading (Option α) := do
  return (← s.readAll (firstOf (filter ++ [.equals s.mapping.idProperty (.text id)]))).head?

/-- The first entity that satisfies a criterion. -/
def findFirst (s : EntityStore α) (c : Criterion) : Reading (Option α) := do
  return (← s.readAll (firstOf [c])).head?

end EntityStore

/-- The property by which a counter-party knows an entity of a kind. -/
def StatefulKind.correlationProperty : StatefulKind → String
  | contractNegotiation => "correlationId"
  | transferProcess => "dataRequest.id"

/-- The entity that a counter-party knows under an id. -/
def EntityStore.findCorrelated {k : StatefulKind} (s : EntityStore k.kind.Record) (id : String) :
    Reading (Option k.kind.Record) :=
  s.findFirst (.equals k.correlationProperty (.text id))

/-- The agreement of an id. -/
def ContractNegotiation.findAgreement (s : EntityStore ContractNegotiation) (id : String) :
    Reading (Option ContractAgreement) := do
  let found ← s.findFirst (.equals "contractAgreement.id" (.text id))
  return found.bind ContractNegotiation.agreement

end LeasedStore
