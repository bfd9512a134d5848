/-
What the stores of a process share, and how they act on it.

* `Backend`: the database, whether connections to it can be had, the clock and the counters;
* `Action`: from a backend to a result or an error, and to the backend afterwards;
* `Reading`: an action that changes nothing;
* `Action.transaction`: all of an action's effects on the database, or none of them;
* `Action.define`, `Action.health`, `Action.close`: tables created or dropped, the connection tried
  and given up.

An action is carried out as a whole before the next one begins.  How many connections there are and
how long one waits for them is left out.
-/
import LeasedStore.Database.Search
import LeasedStore.Counters

namespace LeasedStore

/-- What the stores of a process share. -/
structure Backend where
  database : Database
  /-- Can connections be had? -/
  isOpen : Bool
  clock : Clock
  counters : Counters

/-- A backend with an empty database. -/
def Backend.new (now : Int64) : Backend := ⟨.empty, true, ⟨now⟩, .empty⟩

/-- An action on a backend. -/
abbrev Action (α : Type) := ExceptT StoreError (StateM Backend) α

/-- A result that depends on a backend and leaves it as it is. -/
abbrev Reading (α : Type) := ReaderT Backend (Except StoreError) α

/-- A report of the database as an error of a store. -/
def StoreError.ofDatabase {α : Type} (r : Except DatabaseError α) : Except StoreError α :=
  r.mapError .database

namespace Reading

/-- Something that may fail without a look at the backend. -/
def lift {α : Type} (r : Except StoreError α) : Reading α := fun _ => r

/-- What a database answers. -/
def database {α : Type} (query : Database → Except DatabaseError α) : Reading α :=
  fun b => StoreError.ofDatabase (query b.database)

/-- A connection, as long as they can be had. -/
def connect : Reading Unit := fun b => if b.isOpen then .ok () else .error (.database .poolClosed)

/-- The instant that the clock shows. -/
def now : Reading Int64 := fun b => .ok b.clock.now

end Reading

namespace Action

/-- The outcome of an action on a backend, and the backend afterwards. -/
def runOn {α : Type} (a : Action α) (b : Backend) : Except StoreError α × Backend := a b

/-- A reading as an action. -/
def read {α : Type} (r : Reading α) : Action α := fun b => (r b, b)

/-- A connection, as long as they can be had. -/
def connect : Action Unit := read Reading.connect

/-- A change of the database, or its refusal. -/
def change {α : Type} (f : Database → Except DatabaseError (α × Database)) : Action α := fun b =>
  match f b.database with
  | .ok (a, db) => (.ok a, { b with database := db })
  | .error e => (.error (.database e), b)

/-- One more count. -/
def bump (c : Counter) : Action Unit := fun b =>
  (.ok (), { b with counters := b.counters.bump c })

/-- The outcome of an action, errors included, as a result. -/
def attempt {α : Type} (a : Action α) : Action (Except StoreError α) := fun b =>
  let (r, b') := a b
  (.ok r, b')

/-- An action whose effects on the database last only if it succeeds; counts last anyway. -/
def transaction {α : Type} (work : Action α) : Action α := do
  connect
  fun b =>
    match work b with
    | (.ok a, b') => (.ok a, b')
    | (.error e, b') => (.error e, { b' with database := b.database })

/-- An action whose effects on the database never last. -/
def abandoned {α : Type} (work : Action α) : Action α := do
  connect
  fun b =>
    let (r, b') := work b
    (r, { b' with database := b.database })

/-- Statements that create or drop tables, each on its own, up to the first that is refused. -/
def define : List Definition → Action Unit
  | [] => pure ()
  | d :: rest => do
    connect
    change fun db => (db.define d).map fun db => ((), db)
    define rest

/-- A test of the connection. -/
def health : Action Unit := connect

/-- No connection can be had any more. -/
def close : Action Unit := fun b => (.ok (), { b with isOpen := false })

/-- The clock moved forward; the instant it shows then. -/
def advance (d : Duration) : Action Int64 := fun b =>
  let clock := b.clock.advance d
  (.ok clock.now, { b with clock := clock })

/-- The clock set to an instant. -/
def setClock (millis : Int64) : Action Int64 := fun b =>
  let clock := b.clock.set millis
  (.ok clock.now, { b with clock := clock })

end Action

end LeasedStore
