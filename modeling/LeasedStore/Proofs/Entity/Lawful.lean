/-
What every type of entities keeps to when its values become rows and rows become values.

* `LawfulEntity`: the row of an entity has its id for key and lacks nothing, and an entity that is
  read from a row has the id that the row says;
* `Entity.tableDef`, `Entity.row`: the table of a type, and the row of an entity in it;
* the five types of entities are lawful, and so is `StoreKind.Record` for every kind.
-/
import LeasedStore.Store.Kind
import LeasedStore.Proofs.Backend
import LeasedStore.Proofs.Database.Table

namespace LeasedStore

/-- The table of a type of entities. -/
def Entity.tableDef (α : Type) [Entity α] : TableDef := (Entity.schema α).tableDef

/-- The row of an entity. -/
def Entity.row {α : Type} [Entity α] (e : α) : Row := (Entity.tableDef α).row (Entity.params e)

/-- What a type of entities keeps to. -/
class LawfulEntity (α : Type) [Entity α] : Prop where
  /-- The key of the row of an entity is its id. -/
  key?_row (e : α) : (Entity.tableDef α).key? (Entity.row e) = some (.text (Entity.id e))
  /-- The row of an entity has a value in every column that wants one. -/
  lacking?_row (e : α) : (Entity.tableDef α).lacking? (Entity.row e) = none
  /-- An entity has the id that its row says. -/
  cell_of_ofRow {r : Row} {e : α} (h : Entity.ofRow r = .ok e) :
    r.cell (Entity.schema α).mapping.idColumn = .text (Entity.id e)

/-- The id column holds the id. -/
lemma LawfulEntity.cell_idColumn {α : Type} [Entity α] [LawfulEntity α] (e : α) :
    (Entity.row e).cell (Entity.schema α).mapping.idColumn = .text (Entity.id e) := by
  have hkey := key?_row e
  rw [TableDef.key?] at hkey
  split at hkey
  · cases hkey
  · exact Option.some.inj hkey

lemma Row.text_eq_ok {r : Row} {column s : String} :
    r.text column = .ok s ↔ r.cell column = .text s := by
  rw [Row.text]
  cases r.cell column <;> simp [Row.unreadable]

instance : LawfulEntity Asset where
  key?_row _ := rfl
  lacking?_row _ := rfl
  cell_of_ofRow h := by
    obtain ⟨id, hid, h⟩ := Except.bind_eq_ok.mp h
    obtain ⟨_, _, h⟩ := Except.bind_eq_ok.mp h
    obtain ⟨_, _, h⟩ := Except.bind_eq_ok.mp h
    obtain ⟨_, _, h⟩ := Except.bind_eq_ok.mp h
    cases h
    exact Row.text_eq_ok.mp hid

instance : LawfulEntity PolicyDefinition where
  key?_row _ := rfl
  lacking?_row _ := rfl
  cell_of_ofRow h := by
    obtain ⟨id, hid, h⟩ := Except.bind_eq_ok.mp h
    obtain ⟨_, _, h⟩ := Except.bind_eq_ok.mp h
    obtain ⟨_, _, h⟩ := Except.bind_eq_ok.mp h
    cases h
    exact Row.text_eq_ok.mp hid

instance : LawfulEntity ContractDefinition where
  key?_row _ := rfl
  lacking?_row _ := rfl
  cell_of_ofRow h := by
    obtain ⟨id, hid, h⟩ := Except.bind_eq_ok.mp h
    obtain ⟨_, _, h⟩ := Except.bind_eq_ok.mp h
    obtain ⟨_, _, h⟩ := Except.bind_eq_ok.mp h
    obtain ⟨_, _, h⟩ := Except.bind_eq_ok.mp h
    obtain ⟨_, _, h⟩ := Except.bind_eq_ok.mp h
    cases h
    exact Row.text_eq_ok.mp hid

instance : LawfulEntity ContractNegotiation where
  key?_row _ := rfl
  lacking?_row _ := rfl
  cell_of_ofRow h := by
    obtain ⟨_, _, h⟩ := Except.bind_eq_ok.mp h
    obtain ⟨id, hid, h⟩ := Except.bind_eq_ok.mp h
    -- the other twelve columns say nothing about the id
    iterate 12 obtain ⟨_, _, h⟩ := Except.bind_eq_ok.mp h
    cases h
    exact Row.text_eq_ok.mp hid

instance : LawfulEntity TransferProcess where
  key?_row _ := rfl
  lacking?_row _ := rfl
  cell_of_ofRow h := by
    obtain ⟨_, _, h⟩ := Except.bind_eq_ok.mp h
    obtain ⟨id, hid, h⟩ := Except.bind_eq_ok.mp h
    iterate 8 obtain ⟨_, _, h⟩ := Except.bind_eq_ok.mp h
    cases h
    exact Row.text_eq_ok.mp hid

/-- The entities of every kind are lawful. -/
instance StoreKind.instLawfulEntity : (k : StoreKind) → LawfulEntity k.Record
  | asset => inferInstanceAs (LawfulEntity Asset)
  | policyDefinition => inferInstanceAs (LawfulEntity PolicyDefinition)
  | contractDefinition => inferInstanceAs (LawfulEntity ContractDefinition)
  | contractNegotiation => inferInstanceAs (LawfulEntity ContractNegotiation)
  | transferProcess => inferInstanceAs (LawfulEntity TransferProcess)

lemma StoreKind.idColumn_mem_columnNames (k : StoreKind) :
    k.schema.mapping.idColumn ∈ k.schema.mapping.columnNames := by
  cases k <;> decide

lemma StatefulKind.toEntity_eq (k : StatefulKind) :
    (StatefulKind.instStatefulEntity k).toEntity = StoreKind.instEntity k.kind := by
  cases k <;> rfl

end LeasedStore
