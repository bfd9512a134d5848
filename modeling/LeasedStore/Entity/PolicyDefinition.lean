/-
Policy definitions: usage policies under a name, which contract definitions refer to.

* `PolicyDefinition`: an id, an opaque policy and the instant of creation.
-/
import LeasedStore.Entity.Basic

namespace LeasedStore

/-- A usage policy under a name. -/
structure PolicyDefinition where
  id : String
  policy : Json.Value
  createdAt : Int64

namespace PolicyDefinition

/-- How policy definitions lie in the database; the members of a policy can be queried. -/
def schema : EntitySchema where
  kind := "policy-definition"
  mapping :=
    { table := "harbor_policy_definition"
      idColumn := "id"
      columns := [
        ⟨"id", "id", .text⟩,
        ⟨"policy", "policy", .json⟩,
        ⟨"createdAt", "created_at", .integer⟩]
      jsonMembers := some "policy" }
  nullable := []
  indexes := []

/-- What the columns of a policy definition are bound to. -/
def params (p : PolicyDefinition) : List Param :=
  [.text p.id, .text p.policy.json.compress, .int p.createdAt]

/-- The policy definition of a row. -/
def ofRow (r : Row) : Except StoreError PolicyDefinition := do
  let id ← r.text "id"
  let policy ← r.document "policy" Json.Decoder.value
  let createdAt ← r.int "created_at"
  return ⟨id, policy, createdAt⟩

/-- A policy definition as a JSON object. -/
def toJson (p : PolicyDefinition) : Json :=
  .object [("id", .string p.id), ("policy", p.policy.json), ("createdAt", .ofInt64 p.createdAt)]

/-- The fields of a policy definition. -/
def record : Json.Record PolicyDefinition :=
  mk <$> Json.Record.field "id" Json.Decoder.string
    <*> Json.Record.field "policy" Json.Decoder.value
    <*> Json.Record.field "createdAt" Json.Decoder.int64

/-- A policy definition from a document. -/
def decode : Json.Decoder PolicyDefinition := record.decoder ⟨"PolicyDefinition", 3⟩

instance : Entity PolicyDefinition where
  schema := schema
  id := id
  params := params
  ofRow := ofRow
  toJson := toJson
  decode := decode

end PolicyDefinition

end LeasedStore
