/-
Contract definitions: which assets are offered, under which two policies.

* `ContractDefinition`: an id, the ids of the policies for access and for the contract, criteria
  that select assets, and the instant of creation;
* `ContractDefinition.withSelector`: the same definition with one more criterion.
-/
import LeasedStore.Entity.Basic

namespace LeasedStore

/-- An offer of the assets that match some criteria. -/
structure ContractDefinition where
  id : String
  accessPolicyId : String
  contractPolicyId : String
  assetSelector : List Criterion
  createdAt : Int64
  deriving DecidableEq, Repr

namespace ContractDefinition

/-- A definition that selects all assets. -/
def new (id accessPolicyId contractPolicyId : String) (createdAt : Int64) : ContractDefinition :=
  ⟨id, accessPolicyId, contractPolicyId, [], createdAt⟩

/-- The definition with one more criterion. -/
def withSelector (d : ContractDefinition) (c : Criterion) : ContractDefinition :=
  { d with assetSelector := d.assetSelector ++ [c] }

/-- How contract definitions lie in the database. -/
def schema : EntitySchema where
  kind := "contract-definition"
  mapping :=
    { table := "harbor_contract_definition"
      idColumn := "id"
      columns := [
        ⟨"id", "id", .text⟩,
        ⟨"accessPolicyId", "access_policy_id", .text⟩,
        ⟨"contractPolicyId", "contract_policy_id", .text⟩,
        ⟨"assetSelector", "asset_selector", .json⟩,
        ⟨"createdAt", "created_at", .integer⟩]
      jsonMembers := none }
  nullable := []
  indexes := []

/-- What the columns of a contract definition are bound to. -/
def params (d : ContractDefinition) : List Param :=
  [.text d.id, .text d.accessPolicyId, .text d.contractPolicyId,
    .text (Criterion.listToJson d.assetSelector).compress, .int d.createdAt]

/-- The contract definition of a row. -/
def ofRow (r : Row) : Except StoreError ContractDefinition := do
  let id ← r.text "id"
  let accessPolicyId ← r.text "access_policy_id"
  let contractPolicyId ← r.text "contract_policy_id"
  let assetSelector ← r.document "asset_selector" (Json.Decoder.listOf Criterion.decode)
  let createdAt ← r.int "created_at"
  return ⟨id, accessPolicyId, contractPolicyId, assetSelector, createdAt⟩

/-- A contract definition as a JSON object. -/
def toJson (d : ContractDefinition) : Json :=
  .object [("id", .string d.id), ("accessPolicyId", .string d.accessPolicyId),
    ("contractPolicyId", .string d.contractPolicyId),
    ("assetSelector", Criterion.listToJson d.assetSelector), ("createdAt", .ofInt64 d.createdAt)]

/-- The fields of a contract definition. -/
def record : Json.Record ContractDefinition :=
  mk <$> Json.Record.field "id" Json.Decoder.string
    <*> Json.Record.field "accessPolicyId" Json.Decoder.string
    <*> Json.Record.field "contractPolicyId" Json.Decoder.string
    <*> Json.Record.field "assetSelector" (Json.Decoder.listOf Criterion.decode)
    <*> Json.Record.field "createdAt" Json.Decoder.int64

/-- A contract definition from a document. -/
def decode : Json.Decoder ContractDefinition := record.decoder ⟨"ContractDefinition", 5⟩

instance : Entity ContractDefinition where
  schema := schema
  id := id
  params := params
  ofRow := ofRow
  toJson := toJson
  decode := decode

end ContractDefinition

end LeasedStore
