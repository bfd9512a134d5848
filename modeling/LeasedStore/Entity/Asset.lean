/-
Assets: the data that is offered to counter-parties.

* `Asset`: an id, properties and the address of the data, both opaque, and the instant of creation;
* `Asset.withProperty`, `Asset.withDataAddress`: the same asset with one more entry.
-/
import LeasedStore.Entity.Basic

namespace LeasedStore

/-- Data that is offered. -/
structure Asset where
  id : String
  properties : Json.Members
  dataAddress : Json.Members
  createdAt : Int64

namespace Asset

/-- An asset without properties and address. -/
def new (id : String) (createdAt : Int64) : Asset := ⟨id, .empty, .empty, createdAt⟩

/-- The asset with a property, in place of the one it may have had under the key. -/
def withProperty (a : Asset) (key : String) (v : Json.Value) : Asset :=
  { a with properties := a.properties.insert key v }

/-- The asset with an entry of its address, in place of the one it may have had under the key. -/
def withDataAddress (a : Asset) (key : String) (v : Json.Value) : Asset :=
  { a with dataAddress := a.dataAddress.insert key v }

/-- The property under a key. -/
def property? (a : Asset) (key : String) : Option Json := a.properties.get? key

/-- How assets lie in the database; their properties can be queried. -/
def schema : EntitySchema where
  kind := "asset"
  mapping :=
    { table := "harbor_asset"
      idColumn := "id"
      columns := [
        ⟨"id", "id", .text⟩,
        ⟨"properties", "properties", .json⟩,
        ⟨"dataAddress", "data_address", .json⟩,
        ⟨"createdAt", "created_at", .integer⟩]
      jsonMembers := some "properties" }
  nullable := []
  indexes := []

/-- What the columns of an asset are bound to. -/
def params (a : Asset) : List Param :=
  [.text a.id, .text a.properties.json.compress, .text a.dataAddress.json.compress,
    .int a.createdAt]

/-- The asset of a row. -/
def ofRow (r : Row) : Except StoreError Asset := do
  let id ← r.text "id"
  let properties ← r.document "properties" Json.Decoder.members
  let dataAddress ← r.document "data_address" Json.Decoder.members
  let createdAt ← r.int "created_at"
  return ⟨id, properties, dataAddress, createdAt⟩

/-- An asset as a JSON object. -/
def toJson (a : Asset) : Json :=
  .object [("id", .string a.id), ("properties", a.properties.json),
    ("dataAddress", a.dataAddress.json), ("createdAt", .ofInt64 a.createdAt)]

/-- The fields of an asset. -/
def record : Json.Record Asset :=
  mk <$> Json.Record.field "id" Json.Decoder.string
    <*> Json.Record.field "properties" Json.Decoder.members
    <*> Json.Record.field "dataAddress" Json.Decoder.members
    <*> Json.Record.field "createdAt" Json.Decoder.int64

/-- An asset from a document. -/
def decode : Json.Decoder Asset := record.decoder ⟨"Asset", 4⟩

instance : Entity Asset where
  schema := schema
  id := id
  params := params
  ofRow := ofRow
  toJson := toJson
  decode := decode

end Asset

end LeasedStore
