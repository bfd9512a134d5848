/-
Handing out work: entities that nobody holds, the oldest change of state first.

Candidates are read without a lease, so they may be stale once they are claimed; each of them is
read again under its lease.

* `EntityStore.unleasedCandidates`: entities without an active lease that match a filter;
* `EntityStore.claim`: the candidates that could be leased and still match, leased;
* `EntityStore.nextNotLeased`: both in turn;
* `EntityStore.transition`: a change of state by the holder of the lease.
-/
import LeasedStore.Store.Search

namespace LeasedStore

namespace EntityStore

variable {α : Type}

/-- An entity leased and read again: none if it is leased by somebody else, gone, or does not match
any more. -/
def claimOne [Entity α] (s : EntityStore α) (holder : String) (filter : List Criterion)
    (id : String) : Action (Option α) := do
  match ← (s.leases.acquire id holder).attempt with
  | .error e => if e.isLeaseConflict then return none else throw e
  | .ok _ =>
    match ← Action.read (s.findMatching id filter) with
    | some current => return some current
    | none => do
      s.leases.release id holder
      return none

/-- The candidates that could be leased and still match, in their order; each of them is leased. -/
def claim [Entity α] (s : EntityStore α) (holder : String) (filter : List Criterion) :
    List String → Action (List α)
  | [] => pure []
  | id :: rest => do
    let claimed ← s.claimOne holder filter id
    return claimed.toList ++ (← s.claim holder filter rest)

variable [StatefulEntity α]

/-- The query for entities without an active lease at an instant, the oldest change of state
first. -/
def unleasedBinding (s : EntityStore α) (d : Dialect) (max : UInt32) (filter : List Criterion)
    (now : Int64) : Binding Select := do
  let conditions ← filterConditions s.mapping d filter
  let free ← s.leases.unleased (s.mapping.table ++ "." ++ s.mapping.idColumn) now
  let limit ← Binding.register (TableMapping.countParam max)
  return ⟨.columns s.mapping.columnNames, s.mapping.table, conditions ++ [free],
    [(StatefulEntity.stateTimestampColumn α, .ascending), (s.mapping.idColumn, .ascending)],
    some limit, none⟩

/-- Entities without an active lease that match a filter, at most so many. -/
def unleasedCandidates (s : EntityStore α) (max : UInt32) (filter : List Criterion) :
    Reading (List α) :=
  if max = 0 then pure []
  else do
    let now ← Reading.now
    let query ← Reading.lift
      ((Select.Bound.of (s.unleasedBinding .sqlite max filter now)).mapError .invalidQuery)
    Reading.connect
    let rows ← Reading.database fun db => db.select query
    Reading.lift (rows.mapM Entity.ofRow)

/-- Entities without an active lease that match a filter, at most so many, leased by a holder. -/
def nextNotLeased (s : EntityStore α) (holder : String) (max : UInt32) (filter : List Criterion) :
    Action (List α) := do
  let candidates ← Action.read (s.unleasedCandidates max filter)
  s.claim holder filter (candidates.map Entity.id)

/-- The entity of an id after a change of its state by the holder of its lease, if there is one. -/
def transition (s : EntityStore α) (id : String) (c : StateChange (StatefulEntity.State α))
    (holder : String) : Action (Option α) := do
  match ← Action.read (s.find id) with
  | none => return none
  | some e => do
    let changed := StatefulEntity.change c (← Action.read Reading.now) e
    s.update changed holder
    return some changed

end EntityStore

end LeasedStore
