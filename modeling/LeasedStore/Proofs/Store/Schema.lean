/-
The backend on which everything starts: all tables are there, and none of them has a row.

* `Backend.founded`: a new backend after the tables were created;
* `Backend.table?_founded`, `Backend.lease?_founded`, `Backend.row?_founded`: its tables are empty.
-/
import LeasedStore.Proofs.Store.Rows

namespace LeasedStore

namespace Backend

/-- A new backend after the tables were created. -/
def founded (now : Int64) : Backend := (ControlPlane.ensureSchema.runOn (.new now)).2

variable (now : Int64)

@[simp]
lemma isOpen_founded : (founded now).isOpen = true := rfl

@[simp]
lemma clock_founded : (founded now).clock = ⟨now⟩ := rfl

@[simp]
lemma leases_founded : (founded now).database.leases = some .empty := rfl

lemma table?_founded (k : StoreKind) :
    (founded now).database.table? k.schema.mapping.table = some (.empty k.schema.tableDef) := by
  cases k <;> rfl

lemma lease?_founded (r : Resource) : (founded now).database.lease? r = none := by
  rw [Database.lease?_of_leases (leases_founded now)]
  rfl

lemma row?_founded (k : StoreKind) (id : String) : (founded now).database.row? k id = none := by
  rw [Database.row?_of_table? (table?_founded now k)]
  rfl

lemma conforms_founded : (founded now).database.Conforms := by
  intro k t ht
  rw [table?_founded] at ht
  cases ht
  rfl

end Backend

end LeasedStore
