/-
Databases: tables by name, and the table of leases beside them.

* `Database`: the tables that exist;
* `Database.table`, `Database.leaseTable`: a table, or the report that there is none;
* `Database.put`: the database with another content of a table;
* `Definition`, `Database.define`: statements that create and drop tables.

Of the two dialects that statements are written in, one alone is carried out here.  Left out of its
engine is what no statement of a store meets or shows: contents that are bytes and no text, orders
of text other than that of bytes, triggers, foreign keys and the numbers of rows; limits on the
bytes of a value, a row or a statement and on the columns of a table (those on places, nesting and
patterns are in `Database.Limits`); other processes that use the same file, and what may fail below
(a full disk, a lock that is not given up).
-/
import LeasedStore.Database.Table
import LeasedStore.Lease.Table

namespace LeasedStore

/-- The tables that exist. -/
structure Database where
  /-- The table of leases, if it was created. -/
  leases : Option LeaseTable
  tables : List Table

/-- The name of the table of leases. -/
def LeaseTable.name : String := "harbor_lease"

/-- A statement that creates or drops a table. -/
inductive Definition where
  /-- Creates the table of leases unless it is there. -/
  | createLeases
  /-- Creates a table unless it is there. -/
  | create (d : TableDef)
  | drop (table : String)
  /-- A text that is no SQL, from some word on. -/
  | malformed (word : String)
  deriving DecidableEq, Repr

namespace Database

/-- The database without tables. -/
def empty : Database := ⟨none, []⟩

/-- The table of a name. -/
def table? (db : Database) (name : String) : Option Table := db.tables.find? fun t => t.name = name

/-- The table of a name, or the report that there is none. -/
def table (db : Database) (name : String) : Except DatabaseError Table :=
  match db.table? name with
  | some t => .ok t
  | none => .error (.noSuchTable name)

/-- The table of leases, or the report that there is none. -/
def leaseTable (db : Database) : Except DatabaseError LeaseTable :=
  match db.leases with
  | some t => .ok t
  | none => .error (.noSuchTable LeaseTable.name)

/-- The database without the table of a name. -/
def drop (db : Database) (name : String) : Database :=
  { db with tables := db.tables.filter fun t => t.name ≠ name }

/-- The database with a table in place of the one of its name. -/
def put (db : Database) (t : Table) : Database :=
  { db with tables := t :: (db.drop t.name).tables }

/-- The database with another table of leases. -/
def putLeases (db : Database) (t : LeaseTable) : Database := { db with leases := some t }

/-- The database after a statement that creates or drops a table. -/
def define (db : Database) : Definition → Except DatabaseError Database
  | .createLeases => .ok (if db.leases.isSome then db else db.putLeases .empty)
  | .create d => .ok (if (db.table? d.name).isSome then db else db.put (.empty d))
  | .drop name => (db.table name).map fun _ => db.drop name
  | .malformed word => .error (.badSql word)

/-! ### What a look-up sees of a write -/

theorem table?_put_self (db : Database) (t : Table) : (db.put t).table? t.name = some t := by
  simp [put, table?]

/-- Another table is what it was. -/
theorem table?_put_of_ne {db : Database} {t : Table} {name : String} (h : t.name ≠ name) :
    (db.put t).table? name = db.table? name := by
  simp only [put, drop, table?, List.find?_cons]
  rw [decide_eq_false h]
  simp only [List.find?_filter]
  congr 1
  funext x
  by_cases hx : x.name = name
  · simp [hx, Ne.symm h]
  · simp [hx]

end Database

end LeasedStore
