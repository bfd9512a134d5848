/-
Stores: the entities of one type in their table, written under leases.

An update or a deletion is one transaction that starts by giving up the lease of its caller.
Without an active lease it is refused, whether or not the entity exists; a write that fails gives
the lease back.

* `EntityStore`: the duration of leases and the size of pages;
* `create`, `find`, `update`, `delete`: single entities;
* `rows`, `setColumn`: the rows as they are stored, and one of their cells overwritten.
-/
import LeasedStore.Lease.Manager
import LeasedStore.Entity.Basic

namespace LeasedStore

/-- A store of entities of some type. -/
structure EntityStore (α : Type) where
  leaseDuration : Int64
  /-- How many rows of a query are read at a time. -/
  pageSize : UInt32
  pageSize_pos : 0 < pageSize

namespace EntityStore

variable {α : Type}

/-- A store whose leases last a millisecond at least, and whose pages have a row at least. -/
def new (α : Type) (leaseDuration : Int64) (pageSize : UInt32) : EntityStore α where
  leaseDuration := if leaseDuration < 1 then 1 else leaseDuration
  pageSize := if pageSize = 0 then 1 else pageSize
  pageSize_pos := by
    split
    · decide
    · next h => exact UInt32.pos_iff_ne_zero.2 h

variable [Entity α]

/-- The kind of the entities. -/
def kind (_ : EntityStore α) : String := (Entity.schema α).kind

/-- How the properties of the entities lie in their table. -/
def mapping (_ : EntityStore α) : TableMapping := (Entity.schema α).mapping

/-- The manager of the leases on the entities. -/
def leases (s : EntityStore α) : LeaseManager := ⟨s.kind, s.leaseDuration⟩

/-- The table of the entities created, unless it is there. -/
def ensureSchema (_ : EntityStore α) : Action Unit :=
  Action.define [.create (Entity.schema α).tableDef]

/-- The table of the entities. -/
def table (s : EntityStore α) (db : Database) : Except DatabaseError Table :=
  db.table s.mapping.table

/-! ### Single entities -/

/-- The row of an entity put into the table. -/
def insertRow (s : EntityStore α) (e : α) (db : Database) :
    Except DatabaseError (Unit × Database) := do
  let t ← s.table db
  let t ← t.insert (t.definition.row (Entity.params e))
  return ((), db.put t)

/-- A new entity put in, unless its id is taken. -/
def create (s : EntityStore α) (e : α) : Action Unit := do
  Action.connect
  match ← (Action.change (s.insertRow e)).attempt with
  | .ok () => Action.bump (.mutation s.kind .create)
  | .error (.database report) =>
    if report.isUniqueViolation then throw (.duplicateId (Entity.id e))
    else throw (.database report)
  | .error other => throw other

/-- The entity of an id. -/
def find (s : EntityStore α) (id : String) : Reading (Option α) := do
  Reading.connect
  let t ← Reading.database s.table
  match t.find? (.text id) with
  | none => return none
  | some r => return some (← Reading.lift (Entity.ofRow r))

/-- A write of the table; is there a row that it wrote? -/
def writeTable (s : EntityStore α) (write : Table → Except DatabaseError (Option Table))
    (db : Database) : Except DatabaseError (Bool × Database) := do
  match ← write (← s.table db) with
  | some t => return (true, db.put t)
  | none => return (false, db)

/-- A write of one entity by the holder of its lease, which the write uses up. -/
def guarded (s : EntityStore α) (op : Mutation) (id holder : String)
    (write : Table → Except DatabaseError (Option Table)) : Action Unit := do
  Action.transaction do
    s.leases.consumeIn id holder
    if ← Action.change (s.writeTable write) then pure () else throw (.notFound id)
  Action.bump (.mutation s.kind op)

/-- An entity overwritten by the holder of its lease.  The statement assigns the columns other than
the id one by one; by `StoreKind.updateRows_eq_overwrite` this puts the row of the entity in the
place of that with its id. -/
def update (s : EntityStore α) (e : α) (holder : String) : Action Unit :=
  s.guarded .update (Entity.id e) holder fun t =>
    t.replace (t.definition.row (Entity.params e))

/-- An entity removed by the holder of its lease. -/
def delete (s : EntityStore α) (id holder : String) : Action Unit :=
  s.guarded .delete id holder fun t => .ok (t.erase (.text id))

/-! ### Behind the back of the store -/

/-- The rows as they are stored, in the order of their ids. -/
def rows (s : EntityStore α) : Reading (List Row) := do
  Reading.connect
  let t ← Reading.database s.table
  return sortRows [(s.mapping.idColumn, .ascending)] t.rows

/-- A cell overwritten in the row of an id; how many rows were changed. -/
def setColumn (s : EntityStore α) (id column : String) (c : Cell) : Action Nat := do
  Action.connect
  Action.change fun db => do
    let (n, t) ← (← s.table db).setCell (.text id) column c
    return (n, db.put t)

end EntityStore

end LeasedStore
