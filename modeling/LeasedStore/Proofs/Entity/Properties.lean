/-
The properties of entities, and where they lie in their rows.

* `PropertyValue.cell`, `PropertyValue.kind`: a value as a column holds it;
* `LawfulQueried`: the row of an entity has its properties in the columns that its type says;
* the five types of entities are queried by their properties, and so is `StoreKind.Record` for every
  kind.
-/
import LeasedStore.Proofs.Entity.Faithful
import LeasedStore.Proofs.Query.Meaning

namespace LeasedStore

namespace PropertyValue

/-- A value as a column holds it. -/
def cell : PropertyValue → Cell
  | int n => .int n
  | text s => (Param.nullableText s).cell

/-- The kind of the columns that hold a value. -/
def kind : PropertyValue → ColumnKind
  | int _ => .integer
  | text _ => .text

lemma store_text (s : Option String) :
    StorageType.text.store (Param.nullableText s).cell = (text s).cell := by
  cases s <;> rfl

end PropertyValue

/-- A type of entities whose rows have their properties in the columns that it says. -/
class LawfulQueried (α : Type) [Entity α] [DocumentedEntity α] [QueriedEntity α] : Prop where
  /-- A column other than that of a document holds the value of its property. -/
  cell_column (e : α) : ∀ c ∈ (Entity.schema α).mapping.columns, c.kind ≠ .json →
    QueriedEntity.path? e c.property = none ∧
      ∃ v, (QueriedEntity.properties e).lookup c.property = some v ∧ v.kind = c.kind ∧
        (Entity.row e).cell c.name = v.cell
  /-- The column of the document whose members can be queried holds its text. -/
  cell_document (e : α) : ∀ name c, (Entity.schema α).mapping.jsonMembers = some name →
    (Entity.schema α).mapping.column? name = some c →
      ∃ document, (QueriedEntity.document? : Option (String × (α → Json))) =
          some (c.property, document) ∧
        document e ∈ DocumentedEntity.documents e ∧
        (Entity.row e).cell c.name = .text (document e).compress
  /-- The row of an entity has the columns that queries read and no others. -/
  project_row (e : α) :
    (Entity.row e).project (Entity.schema α).mapping.columnNames = Entity.row e

open PropertyValue (int text)

/-! ### The five types -/

instance : QueriedEntity Asset where
  properties a := [("id", text (some a.id)), ("createdAt", int a.createdAt)]
  document? := some ("properties", fun a => a.properties.json)

instance : LawfulQueried Asset where
  cell_column a := by
    simp only [Entity.schema, Asset.schema, List.forall_mem_cons]
    exact ⟨fun _ => ⟨rfl, _, rfl, rfl, rfl⟩, fun h => absurd rfl h, fun h => absurd rfl h,
      fun _ => ⟨rfl, _, rfl, rfl, rfl⟩, fun c hc => by cases hc⟩
  cell_document a := by
    rintro name c h hc
    cases h
    cases hc
    exact ⟨_, rfl, List.mem_cons_self .., rfl⟩
  project_row a := rfl

instance : QueriedEntity PolicyDefinition where
  properties p := [("id", text (some p.id)), ("createdAt", int p.createdAt)]
  document? := some ("policy", fun p => p.policy.json)

instance : LawfulQueried PolicyDefinition where
  cell_column p := by
    simp only [Entity.schema, PolicyDefinition.schema, List.forall_mem_cons]
    exact ⟨fun _ => ⟨rfl, _, rfl, rfl, rfl⟩, fun h => absurd rfl h,
      fun _ => ⟨rfl, _, rfl, rfl, rfl⟩, fun c hc => by cases hc⟩
  cell_document p := by
    rintro name c h hc
    cases h
    cases hc
    exact ⟨_, rfl, List.mem_cons_self .., rfl⟩
  project_row p := rfl

instance : QueriedEntity ContractDefinition where
  properties d := [("id", text (some d.id)), ("accessPolicyId", text (some d.accessPolicyId)),
    ("contractPolicyId", text (some d.contractPolicyId)), ("createdAt", int d.createdAt)]
  document? := none

instance : LawfulQueried ContractDefinition where
  cell_column d := by
    simp only [Entity.schema, ContractDefinition.schema, List.forall_mem_cons]
    exact ⟨fun _ => ⟨rfl, _, rfl, rfl, rfl⟩, fun _ => ⟨rfl, _, rfl, rfl, rfl⟩,
      fun _ => ⟨rfl, _, rfl, rfl, rfl⟩, fun h => absurd rfl h,
      fun _ => ⟨rfl, _, rfl, rfl, rfl⟩, fun c hc => by cases hc⟩
  cell_document d := fun name c h => by cases h
  project_row d := rfl

instance : QueriedEntity ContractNegotiation where
  properties n := [("id", text (some n.id)), ("correlationId", text n.correlationId),
    ("counterPartyId", text (some n.counterPartyId)),
    ("counterPartyAddress", text (some n.counterPartyAddress)),
    ("protocol", text (some n.protocol)), ("type", text (some n.role.name)),
    ("state", int n.state.code), ("stateCount", int n.stateCount),
    ("stateTimestamp", int n.stateTimestamp), ("errorDetail", text n.errorDetail),
    ("contractAgreement.id", text (n.agreement.map ContractAgreement.id)),
    ("contractAgreement.assetId", text (n.agreement.map ContractAgreement.assetId)),
    ("createdAt", int n.createdAt)]
  document? := none

instance : LawfulQueried ContractNegotiation where
  cell_column n := by
    simp only [Entity.schema, ContractNegotiation.schema, List.forall_mem_cons]
    exact ⟨fun _ => ⟨rfl, _, rfl, rfl, rfl⟩, fun _ =>
      ⟨rfl, _, rfl, rfl, PropertyValue.store_text _⟩,
      fun _ => ⟨rfl, _, rfl, rfl, rfl⟩, fun _ => ⟨rfl, _, rfl, rfl, rfl⟩,
      fun _ => ⟨rfl, _, rfl, rfl, rfl⟩, fun _ => ⟨rfl, _, rfl, rfl, rfl⟩,
      fun _ => ⟨rfl, _, rfl, rfl, rfl⟩, fun _ => ⟨rfl, _, rfl, rfl, rfl⟩,
      fun _ => ⟨rfl, _, rfl, rfl, rfl⟩, fun _ => ⟨rfl, _, rfl, rfl, PropertyValue.store_text _⟩,
      fun h => absurd rfl h, fun _ => ⟨rfl, _, rfl, rfl, PropertyValue.store_text _⟩,
      fun _ => ⟨rfl, _, rfl, rfl, PropertyValue.store_text _⟩,
      fun _ => ⟨rfl, _, rfl, rfl, rfl⟩, fun c hc => by cases hc⟩
  cell_document n := fun name c h => by cases h
  project_row n := rfl

instance : QueriedEntity TransferProcess where
  properties p := [("id", text (some p.id)), ("type", text (some p.role.name)),
    ("state", int p.state.code), ("stateCount", int p.stateCount),
    ("stateTimestamp", int p.stateTimestamp), ("errorDetail", text p.errorDetail),
    ("dataRequest.id", text (some p.dataRequest.id)),
    ("dataRequest.assetId", text (some p.dataRequest.assetId)),
    ("dataRequest.contractId", text (some p.dataRequest.contractId)),
    ("createdAt", int p.createdAt)]
  document? := none

instance : LawfulQueried TransferProcess where
  cell_column p := by
    simp only [Entity.schema, TransferProcess.schema, List.forall_mem_cons]
    exact ⟨fun _ => ⟨rfl, _, rfl, rfl, rfl⟩, fun _ => ⟨rfl, _, rfl, rfl, rfl⟩,
      fun _ => ⟨rfl, _, rfl, rfl, rfl⟩, fun _ => ⟨rfl, _, rfl, rfl, rfl⟩,
      fun _ => ⟨rfl, _, rfl, rfl, rfl⟩, fun _ => ⟨rfl, _, rfl, rfl, PropertyValue.store_text _⟩,
      fun h => absurd rfl h, fun _ => ⟨rfl, _, rfl, rfl, rfl⟩,
      fun _ => ⟨rfl, _, rfl, rfl, rfl⟩, fun _ => ⟨rfl, _, rfl, rfl, rfl⟩,
      fun _ => ⟨rfl, _, rfl, rfl, rfl⟩, fun c hc => by cases hc⟩
  cell_document p := fun name c h => by cases h
  project_row p := rfl

namespace StoreKind

/-- The entities of every kind are queried by their properties. -/
instance instQueriedEntity : (k : StoreKind) → QueriedEntity k.Record
  | asset => inferInstanceAs (QueriedEntity Asset)
  | policyDefinition => inferInstanceAs (QueriedEntity PolicyDefinition)
  | contractDefinition => inferInstanceAs (QueriedEntity ContractDefinition)
  | contractNegotiation => inferInstanceAs (QueriedEntity ContractNegotiation)
  | transferProcess => inferInstanceAs (QueriedEntity TransferProcess)

/-- Their rows have their properties where their kinds say. -/
instance instLawfulQueried : (k : StoreKind) → LawfulQueried k.Record
  | asset => inferInstanceAs (LawfulQueried Asset)
  | policyDefinition => inferInstanceAs (LawfulQueried PolicyDefinition)
  | contractDefinition => inferInstanceAs (LawfulQueried ContractDefinition)
  | contractNegotiation => inferInstanceAs (LawfulQueried ContractNegotiation)
  | transferProcess => inferInstanceAs (LawfulQueried TransferProcess)

end StoreKind

end LeasedStore
