/-
Transfer processes, which move the data of an asset from one side to the other.

* `TransferState`: the states and their codes in the database;
* `DataRequest`: what the consumer asked for; its id is the same on both sides;
* `TransferProcess`: a process, its state, how often in a row it entered it and since when;
* `TransferProcess.transitionTo`, `transitionError`: what happens to a process.

The ids of the request, its asset and its contract have columns of their own beside its document.
-/
import LeasedStore.Entity.Basic

namespace LeasedStore

/-- The states of a transfer. -/
inductive TransferState where
  | initial
  | provisioning | provisioned
  | requesting | requested
  | inProgress | streaming | completed
  | deprovisioning | deprovisioned
  | ended | cancelled | error
  deriving DecidableEq, Repr

namespace TransferState

/-- The names of all states. -/
def table : List (String × TransferState) :=
  [("INITIAL", initial), ("PROVISIONING", provisioning), ("PROVISIONED", provisioned),
    ("REQUESTING", requesting), ("REQUESTED", requested), ("IN_PROGRESS", inProgress),
    ("STREAMING", streaming), ("COMPLETED", completed), ("DEPROVISIONING", deprovisioning),
    ("DEPROVISIONED", deprovisioned), ("ENDED", ended), ("CANCELLED", cancelled),
    ("ERROR", error)]

/-- The name of a state. -/
def name : TransferState → String
  | initial => "INITIAL"
  | provisioning => "PROVISIONING"
  | provisioned => "PROVISIONED"
  | requesting => "REQUESTING"
  | requested => "REQUESTED"
  | inProgress => "IN_PROGRESS"
  | streaming => "STREAMING"
  | completed => "COMPLETED"
  | deprovisioning => "DEPROVISIONING"
  | deprovisioned => "DEPROVISIONED"
  | ended => "ENDED"
  | cancelled => "CANCELLED"
  | error => "ERROR"

/-- The code of a state in the database. -/
def code : TransferState → Int64
  | initial => 100
  | provisioning => 200
  | provisioned => 300
  | requesting => 400
  | requested => 500
  | inProgress => 600
  | streaming => 700
  | completed => 800
  | deprovisioning => 900
  | deprovisioned => 1000
  | ended => 1100
  | cancelled => 1200
  | error => -1

/-- The state of a code. -/
def ofCode? (code : Int64) : Option TransferState :=
  (table.map Prod.snd).find? fun s => s.code = code

/-- A state from its name. -/
def decode : Json.Decoder TransferState := Json.Decoder.choice table (table.map Prod.fst)

/-- A state as its name. -/
def toJson (s : TransferState) : Json := .string s.name

end TransferState

/-- What the consumer asked for. -/
structure DataRequest where
  id : String
  connectorAddress : String
  protocol : String
  connectorId : String
  assetId : String
  contractId : String
  dataDestination : Json.Members
  properties : Json.Texts

namespace DataRequest

/-- A request for an asset under a contract. -/
def new (id assetId contractId : String) : DataRequest where
  id := id
  connectorAddress := ""
  protocol := "ids-multipart"
  connectorId := ""
  assetId := assetId
  contractId := contractId
  dataDestination := .empty
  properties := .empty

/-- A request as a JSON object. -/
def toJson (d : DataRequest) : Json :=
  .object [("id", .string d.id), ("connectorAddress", .string d.connectorAddress),
    ("protocol", .string d.protocol), ("connectorId", .string d.connectorId),
    ("assetId", .string d.assetId), ("contractId", .string d.contractId),
    ("dataDestination", d.dataDestination.json),
    ("properties", d.properties.json)]

/-- The fields of a request; the last two may be missing. -/
def record : Json.Record DataRequest :=
  mk <$> Json.Record.field "id" Json.Decoder.string
    <*> Json.Record.field "connectorAddress" Json.Decoder.string
    <*> Json.Record.field "protocol" Json.Decoder.string
    <*> Json.Record.field "connectorId" Json.Decoder.string
    <*> Json.Record.field "assetId" Json.Decoder.string
    <*> Json.Record.field "contractId" Json.Decoder.string
    <*> Json.Record.defaultField "dataDestination" Json.Decoder.members .empty
    <*> Json.Record.defaultField "properties" Json.Decoder.texts .empty

/-- A request from a document. -/
def decode : Json.Decoder DataRequest := record.decoder ⟨"DataRequest", 8⟩

end DataRequest

/-- A transfer of data. -/
structure TransferProcess where
  id : String
  role : Role
  state : TransferState
  stateCount : Int64
  stateTimestamp : Int64
  errorDetail : Option String
  dataRequest : DataRequest
  createdAt : Int64

namespace TransferProcess

/-- A transfer that starts now. -/
def new (id : String) (role : Role) (request : DataRequest) (now : Int64) : TransferProcess where
  id := id
  role := role
  state := .initial
  stateCount := 1
  stateTimestamp := now
  errorDetail := none
  dataRequest := request
  createdAt := now

/-- The side that a text names. -/
def parseRole (text : String) : Except StoreError Role := Role.parse "transfer" text

/-- The process in a state since an instant. -/
def transitionTo (p : TransferProcess) (state : TransferState) (now : Int64) : TransferProcess :=
  { p with
    state := state
    stateCount := nextStateCount p.state.code state.code p.stateCount
    stateTimestamp := now }

/-- The process failed at an instant. -/
def transitionError (p : TransferProcess) (detail : String) (now : Int64) : TransferProcess :=
  { p with errorDetail := some detail }.transitionTo .error now

/-- The process after a change of its state at an instant. -/
def change (c : StateChange TransferState) (now : Int64) (p : TransferProcess) : TransferProcess :=
  match c with
  | .enter state => p.transitionTo state now
  | .fail detail => p.transitionError detail now

/-- How transfer processes lie in the database. -/
def schema : EntitySchema where
  kind := "transfer-process"
  mapping :=
    { table := "harbor_transfer_process"
      idColumn := "id"
      columns := [
        ⟨"id", "id", .text⟩,
        ⟨"type", "transfer_type", .text⟩,
        ⟨"state", "state", .integer⟩,
        ⟨"stateCount", "state_count", .integer⟩,
        ⟨"stateTimestamp", "state_timestamp", .integer⟩,
        ⟨"errorDetail", "error_detail", .text⟩,
        ⟨"dataRequest", "data_request", .json⟩,
        ⟨"dataRequest.id", "data_request_id", .text⟩,
        ⟨"dataRequest.assetId", "asset_id", .text⟩,
        ⟨"dataRequest.contractId", "contract_id", .text⟩,
        ⟨"createdAt", "created_at", .integer⟩]
      jsonMembers := none }
  nullable := ["error_detail"]
  indexes := [("state", ["state", "state_timestamp"]), ("data_request", ["data_request_id"])]

/-- What the columns of a transfer process are bound to. -/
def params (p : TransferProcess) : List Param :=
  [.text p.id, .text p.role.name, .int p.state.code, .int p.stateCount, .int p.stateTimestamp,
    .nullableText p.errorDetail, .text p.dataRequest.toJson.compress, .text p.dataRequest.id,
    .text p.dataRequest.assetId, .text p.dataRequest.contractId, .int p.createdAt]

/-- The transfer process of a row. -/
def ofRow (r : Row) : Except StoreError TransferProcess := do
  let roleName ← r.text "transfer_type"
  let id ← r.text "id"
  let role ← parseRole roleName
  let state ← stateOfCode TransferState.ofCode? (← r.int "state")
  let stateCount ← r.int "state_count"
  let stateTimestamp ← r.int "state_timestamp"
  let errorDetail ← r.text? "error_detail"
  let dataRequest ← r.document "data_request" DataRequest.decode
  let createdAt ← r.int "created_at"
  return ⟨id, role, state, stateCount, stateTimestamp, errorDetail, dataRequest, createdAt⟩

/-- A transfer process as a JSON object. -/
def toJson (p : TransferProcess) : Json :=
  .object [("id", .string p.id), ("type", p.role.toJson), ("state", p.state.toJson),
    ("stateCount", .ofInt64 p.stateCount), ("stateTimestamp", .ofInt64 p.stateTimestamp),
    ("errorDetail", .ofText? p.errorDetail), ("dataRequest", p.dataRequest.toJson),
    ("createdAt", .ofInt64 p.createdAt)]

/-- The fields of a transfer process. -/
def record : Json.Record TransferProcess :=
  mk <$> Json.Record.field "id" Json.Decoder.string
    <*> Json.Record.field "type" Role.decode
    <*> Json.Record.field "state" TransferState.decode
    <*> Json.Record.field "stateCount" Json.Decoder.int64
    <*> Json.Record.field "stateTimestamp" Json.Decoder.int64
    <*> Json.Record.optionalField "errorDetail" Json.Decoder.string
    <*> Json.Record.field "dataRequest" DataRequest.decode
    <*> Json.Record.field "createdAt" Json.Decoder.int64

/-- A transfer process from a document. -/
def decode : Json.Decoder TransferProcess := record.decoder ⟨"TransferProcess", 8⟩

/-- The process, and what it is after each of some changes of its state. -/
def history (p : TransferProcess) :
    List (StateChange TransferState × Int64) → List TransferProcess
  | [] => [p]
  | (c, now) :: rest => p :: (p.change c now).history rest

instance : StatefulEntity TransferProcess where
  schema := schema
  id := id
  params := params
  ofRow := ofRow
  toJson := toJson
  decode := decode
  State := TransferState
  decodeState := TransferState.decode
  change := change
  stateTimestampColumn := "state_timestamp"

end TransferProcess

end LeasedStore
