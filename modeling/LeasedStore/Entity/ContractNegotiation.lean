/-
Contract negotiations between us and a counter-party.

* `NegotiationState`: the states, their codes in the database, and which of them are final;
* `ContractAgreement`: what a negotiation ends with;
* `ContractNegotiation`: a negotiation, its state, how often in a row it entered it and since when;
* `ContractNegotiation.transitionTo`, `transitionError`, `withAgreement`, `withCorrelationId`: what
  happens to a negotiation.

The ids of the agreement and of its asset have columns of their own beside its document.
-/
import LeasedStore.Entity.Basic

namespace LeasedStore

/-- The states of a negotiation. -/
inductive NegotiationState where
  | requesting | requested
  | providerOffering | providerOffered
  | consumerOffering | consumerOffered
  | consumerApproving | consumerApproved
  | declining | declined
  | confirming | confirmed
  | error
  deriving DecidableEq, Repr

namespace NegotiationState

/-- The names of all states. -/
def table : List (String × NegotiationState) :=
  [("REQUESTING", requesting), ("REQUESTED", requested),
    ("PROVIDER_OFFERING", providerOffering), ("PROVIDER_OFFERED", providerOffered),
    ("CONSUMER_OFFERING", consumerOffering), ("CONSUMER_OFFERED", consumerOffered),
    ("CONSUMER_APPROVING", consumerApproving), ("CONSUMER_APPROVED", consumerApproved),
    ("DECLINING", declining), ("DECLINED", declined),
    ("CONFIRMING", confirming), ("CONFIRMED", confirmed), ("ERROR", error)]

/-- The name of a state. -/
def name : NegotiationState → String
  | requesting => "REQUESTING"
  | requested => "REQUESTED"
  | providerOffering => "PROVIDER_OFFERING"
  | providerOffered => "PROVIDER_OFFERED"
  | consumerOffering => "CONSUMER_OFFERING"
  | consumerOffered => "CONSUMER_OFFERED"
  | consumerApproving => "CONSUMER_APPROVING"
  | consumerApproved => "CONSUMER_APPROVED"
  | declining => "DECLINING"
  | declined => "DECLINED"
  | confirming => "CONFIRMING"
  | confirmed => "CONFIRMED"
  | error => "ERROR"

/-- The code of a state in the database. -/
def code : NegotiationState → Int64
  | requesting => 100
  | requested => 200
  | providerOffering => 300
  | providerOffered => 400
  | consumerOffering => 500
  | consumerOffered => 600
  | consumerApproving => 700
  | consumerApproved => 800
  | declining => 900
  | declined => 1000
  | confirming => 1100
  | confirmed => 1200
  | error => -1

/-- The state of a code. -/
def ofCode? (code : Int64) : Option NegotiationState :=
  (table.map Prod.snd).find? fun s => s.code = code

/-- Does a negotiation in this state rest? -/
def isFinal : NegotiationState → Bool
  | confirmed | declined | error => true
  | _ => false

/-- A state from its name. -/
def decode : Json.Decoder NegotiationState := Json.Decoder.choice table (table.map Prod.fst)

/-- A state as its name. -/
def toJson (s : NegotiationState) : Json := .string s.name

end NegotiationState

/-- What a negotiation ends with. -/
structure ContractAgreement where
  id : String
  providerId : String
  consumerId : String
  assetId : String
  policy : Json.Value
  contractSigningDate : Int64

namespace ContractAgreement

/-- An agreement as a JSON object. -/
def toJson (a : ContractAgreement) : Json :=
  .object [("id", .string a.id), ("providerId", .string a.providerId),
    ("consumerId", .string a.consumerId), ("assetId", .string a.assetId),
    ("policy", a.policy.json), ("contractSigningDate", .ofInt64 a.contractSigningDate)]

/-- The fields of an agreement. -/
def record : Json.Record ContractAgreement :=
  mk <$> Json.Record.field "id" Json.Decoder.string
    <*> Json.Record.field "providerId" Json.Decoder.string
    <*> Json.Record.field "consumerId" Json.Decoder.string
    <*> Json.Record.field "assetId" Json.Decoder.string
    <*> Json.Record.field "policy" Json.Decoder.value
    <*> Json.Record.field "contractSigningDate" Json.Decoder.int64

/-- An agreement from a document. -/
def decode : Json.Decoder ContractAgreement := record.decoder ⟨"ContractAgreement", 6⟩

/-- An agreement that there may be, as a JSON value. -/
def toJson? (a : Option ContractAgreement) : Json := (a.map toJson).getD .null

end ContractAgreement

/-- A negotiation with a counter-party. -/
structure ContractNegotiation where
  id : String
  /-- The id of the same negotiation at the counter-party. -/
  correlationId : Option String
  counterPartyId : String
  counterPartyAddress : String
  protocol : String
  role : Role
  state : NegotiationState
  stateCount : Int64
  stateTimestamp : Int64
  errorDetail : Option String
  agreement : Option ContractAgreement
  createdAt : Int64

namespace ContractNegotiation

/-- A negotiation that starts now. -/
def new (id : String) (role : Role) (counterPartyId counterPartyAddress : String) (now : Int64) :
    ContractNegotiation where
  id := id
  correlationId := none
  counterPartyId := counterPartyId
  counterPartyAddress := counterPartyAddress
  protocol := "ids-multipart"
  role := role
  state := .requesting
  stateCount := 1
  stateTimestamp := now
  errorDetail := none
  agreement := none
  createdAt := now

/-- The side that a text names. -/
def parseRole (text : String) : Except StoreError Role := Role.parse "negotiation" text

/-- The negotiation with the id that the counter-party gives it. -/
def withCorrelationId (n : ContractNegotiation) (correlationId : String) : ContractNegotiation :=
  { n with correlationId := some correlationId }

/-- The negotiation with an agreement. -/
def withAgreement (n : ContractNegotiation) (a : ContractAgreement) : ContractNegotiation :=
  { n with agreement := some a }

/-- The negotiation in a state since an instant. -/
def transitionTo (n : ContractNegotiation) (state : NegotiationState) (now : Int64) :
    ContractNegotiation :=
  { n with
    state := state
    stateCount := nextStateCount n.state.code state.code n.stateCount
    stateTimestamp := now }

/-- The negotiation failed at an instant. -/
def transitionError (n : ContractNegotiation) (detail : String) (now : Int64) :
    ContractNegotiation :=
  { n with errorDetail := some detail }.transitionTo .error now

/-- The negotiation after a change of its state at an instant. -/
def change (c : StateChange NegotiationState) (now : Int64) (n : ContractNegotiation) :
    ContractNegotiation :=
  match c with
  | .enter state => n.transitionTo state now
  | .fail detail => n.transitionError detail now

/-- How negotiations lie in the database. -/
def schema : EntitySchema where
  kind := "contract-negotiation"
  mapping :=
    { table := "harbor_contract_negotiation"
      idColumn := "id"
      columns := [
        ⟨"id", "id", .text⟩,
        ⟨"correlationId", "correlation_id", .text⟩,
        ⟨"counterPartyId", "counter_party_id", .text⟩,
        ⟨"counterPartyAddress", "counter_party_address", .text⟩,
        ⟨"protocol", "protocol", .text⟩,
        ⟨"type", "negotiation_type", .text⟩,
        ⟨"state", "state", .integer⟩,
        ⟨"stateCount", "state_count", .integer⟩,
        ⟨"stateTimestamp", "state_timestamp", .integer⟩,
        ⟨"errorDetail", "error_detail", .text⟩,
        ⟨"contractAgreement", "contract_agreement", .json⟩,
        ⟨"contractAgreement.id", "agreement_id", .text⟩,
        ⟨"contractAgreement.assetId", "agreement_asset_id", .text⟩,
        ⟨"createdAt", "created_at", .integer⟩]
      jsonMembers := none }
  nullable :=
    ["correlation_id", "error_detail", "contract_agreement", "agreement_id", "agreement_asset_id"]
  indexes :=
    [("state", ["state", "state_timestamp"]), ("correlation", ["correlation_id"]),
      ("agreement", ["agreement_id"])]

/-- What the columns of a negotiation are bound to. -/
def params (n : ContractNegotiation) : List Param :=
  [.text n.id, .nullableText n.correlationId, .text n.counterPartyId,
    .text n.counterPartyAddress, .text n.protocol, .text n.role.name, .int n.state.code,
    .int n.stateCount, .int n.stateTimestamp, .nullableText n.errorDetail,
    .nullableText (n.agreement.map fun a => a.toJson.compress),
    .nullableText (n.agreement.map fun a => a.id),
    .nullableText (n.agreement.map fun a => a.assetId), .int n.createdAt]

/-- The negotiation of a row. -/
def ofRow (r : Row) : Except StoreError ContractNegotiation := do
  let roleName ← r.text "negotiation_type"
  let id ← r.text "id"
  let correlationId ← r.text? "correlation_id"
  let counterPartyId ← r.text "counter_party_id"
  let counterPartyAddress ← r.text "counter_party_address"
  let protocol ← r.text "protocol"
  let role ← parseRole roleName
  let state ← stateOfCode NegotiationState.ofCode? (← r.int "state")
  let stateCount ← r.int "state_count"
  let stateTimestamp ← r.int "state_timestamp"
  let errorDetail ← r.text? "error_detail"
  let agreement ← r.document? "contract_agreement" ContractAgreement.decode
  let createdAt ← r.int "created_at"
  return ⟨id, correlationId, counterPartyId, counterPartyAddress, protocol, role, state,
    stateCount, stateTimestamp, errorDetail, agreement, createdAt⟩

/-- A negotiation as a JSON object. -/
def toJson (n : ContractNegotiation) : Json :=
  .object [("id", .string n.id), ("correlationId", .ofText? n.correlationId),
    ("counterPartyId", .string n.counterPartyId),
    ("counterPartyAddress", .string n.counterPartyAddress), ("protocol", .string n.protocol),
    ("type", n.role.toJson), ("state", n.state.toJson), ("stateCount", .ofInt64 n.stateCount),
    ("stateTimestamp", .ofInt64 n.stateTimestamp), ("errorDetail", .ofText? n.errorDetail),
    ("contractAgreement", ContractAgreement.toJson? n.agreement),
    ("createdAt", .ofInt64 n.createdAt)]

/-- The fields of a negotiation. -/
def record : Json.Record ContractNegotiation :=
  mk <$> Json.Record.field "id" Json.Decoder.string
    <*> Json.Record.optionalField "correlationId" Json.Decoder.string
    <*> Json.Record.field "counterPartyId" Json.Decoder.string
    <*> Json.Record.field "counterPartyAddress" Json.Decoder.string
    <*> Json.Record.field "protocol" Json.Decoder.string
    <*> Json.Record.field "type" Role.decode
    <*> Json.Record.field "state" NegotiationState.decode
    <*> Json.Record.field "stateCount" Json.Decoder.int64
    <*> Json.Record.field "stateTimestamp" Json.Decoder.int64
    <*> Json.Record.optionalField "errorDetail" Json.Decoder.string
    <*> Json.Record.optionalField "contractAgreement" ContractAgreement.decode
    <*> Json.Record.field "createdAt" Json.Decoder.int64

/-- A negotiation from a document. -/
def decode : Json.Decoder ContractNegotiation := record.decoder ⟨"ContractNegotiation", 12⟩

/-- What happens to a negotiation. -/
inductive Event where
  | change (c : StateChange NegotiationState) (at_ : Int64)
  | agreement (a : ContractAgreement)
  | correlationId (id : String)

/-- The negotiation after an event. -/
def apply (n : ContractNegotiation) : Event → ContractNegotiation
  | .change c now => n.change c now
  | .agreement a => n.withAgreement a
  | .correlationId id => n.withCorrelationId id

/-- The negotiation, and what it is after each of some events. -/
def history (n : ContractNegotiation) : List Event → List ContractNegotiation
  | [] => [n]
  | e :: rest => n :: (n.apply e).history rest

instance : StatefulEntity ContractNegotiation where
  schema := schema
  id := id
  params := params
  ofRow := ofRow
  toJson := toJson
  decode := decode
  State := NegotiationState
  decodeState := NegotiationState.decode
  change := change
  stateTimestampColumn := "state_timestamp"

end ContractNegotiation

end LeasedStore
