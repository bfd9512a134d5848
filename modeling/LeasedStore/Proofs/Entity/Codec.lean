/-
Values that are written as JSON and read again.

* `WireType`: the types whose values are exchanged as JSON, with the document of a value and the
  decoder of each;
* `WireType.reads`: a value is read from its document;
* `WireType.yields`: what is read from a text can be written and is not too deep to be read again;
* `WireType.read_write`: values that are written are read as what they were, and so are those that
  come from any text.
-/
import LeasedStore.Proofs.Entity.Faithful
import LeasedStore.Proofs.Json.Depth

namespace LeasedStore

/-! ### Values that are read from their documents -/

section Reads

open Json.Record Json.Decoder

lemma SortOrder.reads (o : SortOrder) : SortOrder.decode.Reads o.toJson o := by
  refine reads_choice ?_
  cases o <;> decide

lemma Role.reads (r : Role) : Role.decode.Reads r.toJson r := by
  refine reads_choice ?_
  cases r <;> decide

lemma NegotiationState.reads (s : NegotiationState) : NegotiationState.decode.Reads s.toJson s := by
  refine reads_choice ?_
  cases s <;> decide

lemma TransferState.reads (s : TransferState) : TransferState.decode.Reads s.toJson s := by
  refine reads_choice ?_
  cases s <;> decide

/-- A specification is read from its document. -/
lemma QuerySpec.reads (s : QuerySpec) : QuerySpec.decode.Reads s.toJson s := by
  obtain ⟨filter, sortField, sortOrder, offset, limit⟩ := s
  refine reads_decoder ?_ _
  refine reads_seq_field [_, _, _, _] (reads_uint32 limit) (by simp [defaultField]) ?_
  refine reads_seq_field [_, _, _] (reads_uint32 offset) (by simp [defaultField]) ?_
  refine reads_seq_field [_, _] sortOrder.reads (by simp [defaultField]) ?_
  refine reads_seq_field [_] (reads_text? sortField) (by simp [defaultField]) ?_
  exact reads_map (reads_fieldWith (Criterion.reads_list filter))

/-- An asset is read from its document. -/
lemma Asset.reads (a : Asset) : Asset.decode.Reads a.toJson a := by
  obtain ⟨id, properties, dataAddress, createdAt⟩ := a
  refine reads_decoder ?_ _
  refine reads_seq_field [_, _, _] (reads_int64 createdAt) (by simp [field]) ?_
  refine reads_seq_field [_, _] (reads_members dataAddress) (by simp [field]) ?_
  refine reads_seq_field [_] (reads_members properties) (by simp [field]) ?_
  exact reads_map (reads_fieldWith (reads_string id))

/-- A policy definition is read from its document. -/
lemma PolicyDefinition.reads (p : PolicyDefinition) :
    PolicyDefinition.decode.Reads p.toJson p := by
  obtain ⟨id, policy, createdAt⟩ := p
  refine reads_decoder ?_ _
  refine reads_seq_field [_, _] (reads_int64 createdAt) (by simp [field]) ?_
  refine reads_seq_field [_] (reads_value policy) (by simp [field]) ?_
  exact reads_map (reads_fieldWith (reads_string id))

/-- A contract definition is read from its document. -/
lemma ContractDefinition.reads (d : ContractDefinition) :
    ContractDefinition.decode.Reads d.toJson d := by
  obtain ⟨id, accessPolicyId, contractPolicyId, assetSelector, createdAt⟩ := d
  refine reads_decoder ?_ _
  refine reads_seq_field [_, _, _, _] (reads_int64 createdAt) (by simp [field]) ?_
  refine reads_seq_field [_, _, _] (Criterion.reads_list assetSelector) (by simp [field]) ?_
  refine reads_seq_field [_, _] (reads_string contractPolicyId) (by simp [field]) ?_
  refine reads_seq_field [_] (reads_string accessPolicyId) (by simp [field]) ?_
  exact reads_map (reads_fieldWith (reads_string id))

lemma ContractAgreement.reads_toJson? (a : Option ContractAgreement) :
    (optional ContractAgreement.decode).Reads (ContractAgreement.toJson? a) a := by
  cases a with
  | none => exact fun _ => rfl
  | some a => exact reads_some a.reads (by simp [toJson?, toJson])

/-- A negotiation is read from its document. -/
lemma ContractNegotiation.reads (n : ContractNegotiation) :
    ContractNegotiation.decode.Reads n.toJson n := by
  obtain ⟨id, correlationId, counterPartyId, counterPartyAddress, protocol, role, state, stateCount,
    stateTimestamp, errorDetail, agreement, createdAt⟩ := n
  refine reads_decoder ?_ _
  -- the fields are taken from the last one on, each with the names in front of it, which are none
  -- of its own
  refine reads_seq_field [_, _, _, _, _, _, _, _, _, _, _] (reads_int64 createdAt)
    (by simp [field, optionalField]) ?_
  refine reads_seq_field [_, _, _, _, _, _, _, _, _, _]
    (ContractAgreement.reads_toJson? agreement) (by simp [field, optionalField]) ?_
  refine reads_seq_field [_, _, _, _, _, _, _, _, _] (reads_text? errorDetail)
    (by simp [field, optionalField]) ?_
  refine reads_seq_field [_, _, _, _, _, _, _, _] (reads_int64 stateTimestamp)
    (by simp [field, optionalField]) ?_
  refine reads_seq_field [_, _, _, _, _, _, _] (reads_int64 stateCount)
    (by simp [field, optionalField]) ?_
  refine reads_seq_field [_, _, _, _, _, _] state.reads (by simp [field, optionalField]) ?_
  refine reads_seq_field [_, _, _, _, _] role.reads (by simp [field, optionalField]) ?_
  refine reads_seq_field [_, _, _, _] (reads_string protocol) (by simp [field, optionalField]) ?_
  refine reads_seq_field [_, _, _] (reads_string counterPartyAddress)
    (by simp [field, optionalField]) ?_
  refine reads_seq_field [_, _] (reads_string counterPartyId) (by simp [field, optionalField]) ?_
  refine reads_seq_field [_] (reads_text? correlationId) (by simp [field]) ?_
  exact reads_map (reads_fieldWith (reads_string id))

/-- A transfer process is read from its document. -/
lemma TransferProcess.reads (p : TransferProcess) : TransferProcess.decode.Reads p.toJson p := by
  obtain ⟨id, role, state, stateCount, stateTimestamp, errorDetail, dataRequest, createdAt⟩ := p
  refine reads_decoder ?_ _
  refine reads_seq_field [_, _, _, _, _, _, _] (reads_int64 createdAt)
    (by simp [field, optionalField]) ?_
  refine reads_seq_field [_, _, _, _, _, _] dataRequest.reads (by simp [field, optionalField]) ?_
  refine reads_seq_field [_, _, _, _, _] (reads_text? errorDetail) (by simp [field]) ?_
  refine reads_seq_field [_, _, _, _] (reads_int64 stateTimestamp) (by simp [field]) ?_
  refine reads_seq_field [_, _, _] (reads_int64 stateCount) (by simp [field]) ?_
  refine reads_seq_field [_, _] state.reads (by simp [field]) ?_
  refine reads_seq_field [_] role.reads (by simp [field]) ?_
  exact reads_map (reads_fieldWith (reads_string id))

end Reads

/-! ### How deep the documents are of what is read -/

namespace Json

lemma itemsDepth_map_le_iff {α : Type} {toJson : α → Json} {as : List α} {n : Nat} :
    itemsDepth (as.map toJson) ≤ n ↔ ∀ a ∈ as, (toJson a).depth ≤ n := by
  induction as with
  | nil => simp [itemsDepth]
  | cons a rest ih => simp [itemsDepth, ih]

@[simp]
lemma depth_string (s : String) : (Json.string s).depth = 0 := rfl

@[simp]
lemma depth_ofInt64 (n : Int64) : (ofInt64 n).depth = 0 := rfl

@[simp]
lemma depth_ofUInt32 (n : UInt32) : (ofUInt32 n).depth = 0 := rfl

@[simp]
lemma depth_ofText? (s : Option String) : (ofText? s).depth = 0 := by cases s <;> rfl

end Json

section Yields

open Json.Record Json.Decoder

mutual

/-- An operand is no deeper than the value that stands for it. -/
theorem Operand.depth_toJson_le : ∀ {j : Json} {o : Operand}, ofJson? j = some o →
    o.toJson.depth ≤ j.depth
  | .number (.int n _), o, h => by
      rw [ofJson?] at h
      obtain ⟨m, _, rfl⟩ := Option.map_eq_some_iff.mp h
      exact Nat.zero_le _
  | .string s, o, h => by
      cases h
      exact Nat.zero_le _
  | .array items, o, h => by
      rw [ofJson?] at h
      obtain ⟨os, hos, rfl⟩ := Option.map_eq_some_iff.mp h
      exact Nat.succ_le_succ (itemsDepth_itemsToJson_le hos)

/-- Operands are no deeper than the values that stand for them. -/
theorem Operand.itemsDepth_itemsToJson_le : ∀ {js : List Json} {os : List Operand},
    itemsOfJson? js = some os → Json.itemsDepth (itemsToJson os) ≤ Json.itemsDepth js
  | [], _, h => by
      cases h
      exact Nat.zero_le _
  | j :: rest, _, h => by
      rw [itemsOfJson?] at h
      split at h
      · next o os ho hos =>
          cases h
          exact max_le_max (depth_toJson_le ho) (itemsDepth_itemsToJson_le hos)
      · cases h

end

variable (room : Nat)

/-- What is read as an operand. -/
lemma Operand.yields : Operand.decode.Yields room fun o => o.toJson.depth ≤ room := by
  intro d o hd ho
  rw [decode] at ho
  split at ho
  · cases ho
  · next j hj =>
      split at ho
      · next o' ho' =>
          cases ho
          exact (depth_toJson_le ho').trans ((depth_asJson_le hj).trans hd)
      · cases ho

/-- What is read as a criterion. -/
lemma Criterion.yields :
    Criterion.decode.Yields (room + 1) fun c => c.toJson.depth ≤ room + 1 := by
  refine yields_decoder ?_ _
  refine yields_seq ?_ (yields_field (Operand.yields room))
  refine yields_seq ?_ (yields_field (yields_any Operator.decode room))
  refine yields_map (yields_field (yields_any string room)) ?_
  intro property _ operator _ operand hoperand
  simpa [toJson, Operator.toJson, Json.depth, Json.membersDepth] using hoperand

lemma Criterion.yields_list :
    (listOf Criterion.decode).Yields (room + 2) fun cs => (listToJson cs).depth ≤ room + 2 := by
  intro d cs hd hcs
  have hall : ∀ c ∈ cs, c.toJson.depth ≤ room + 1 :=
    yields_listOf (Criterion.yields room) d cs hd hcs
  exact Nat.succ_le_succ (Json.itemsDepth_map_le_iff.mpr hall)

/-- What is read as a specification. -/
lemma QuerySpec.yields :
    QuerySpec.decode.Yields (room + 3) fun s => s.toJson.depth ≤ room + 3 := by
  have hnone : (Criterion.listToJson new.filter).depth ≤ room + 2 := by
    simp [new, Criterion.listToJson, Json.depth, Json.itemsDepth]
  refine yields_decoder ?_ _
  refine yields_seq ?_ (yields_defaultField (yields_any uint32 _) trivial)
  refine yields_seq ?_ (yields_defaultField (yields_any uint32 _) trivial)
  refine yields_seq ?_ (yields_defaultField (yields_any SortOrder.decode _) trivial)
  refine yields_seq ?_ (yields_defaultField (yields_any (optional string) _) trivial)
  refine yields_map (yields_defaultField (Criterion.yields_list room) hnone) ?_
  intro filter hfilter sortField _ sortOrder _ offset _ limit _
  simpa [toJson, SortOrder.toJson, Json.depth, Json.membersDepth] using hfilter

/-- What is read as an asset. -/
lemma Asset.yields : Asset.decode.Yields (room + 1) fun a => a.toJson.depth ≤ room + 1 := by
  refine yields_decoder ?_ _
  refine yields_seq ?_ (yields_field (yields_any int64 room))
  refine yields_seq ?_ (yields_field (yields_members room))
  refine yields_seq ?_ (yields_field (yields_members room))
  refine yields_map (yields_field (yields_any string room)) ?_
  intro id _ properties hproperties dataAddress haddress createdAt _
  simpa [toJson, Json.depth, Json.membersDepth] using ⟨hproperties, haddress⟩

/-- What is read as a policy definition. -/
lemma PolicyDefinition.yields :
    PolicyDefinition.decode.Yields (room + 1) fun p => p.toJson.depth ≤ room + 1 := by
  refine yields_decoder ?_ _
  refine yields_seq ?_ (yields_field (yields_any int64 room))
  refine yields_seq ?_ (yields_field (yields_value room))
  refine yields_map (yields_field (yields_any string room)) ?_
  intro id _ policy hpolicy createdAt _
  simpa [toJson, Json.depth, Json.membersDepth] using hpolicy

/-- What is read as a contract definition. -/
lemma ContractDefinition.yields :
    ContractDefinition.decode.Yields (room + 3) fun d => d.toJson.depth ≤ room + 3 := by
  refine yields_decoder ?_ _
  refine yields_seq ?_ (yields_field (yields_any int64 _))
  refine yields_seq ?_ (yields_field (Criterion.yields_list room))
  refine yields_seq ?_ (yields_field (yields_any string _))
  refine yields_seq ?_ (yields_field (yields_any string _))
  refine yields_map (yields_field (yields_any string _)) ?_
  intro id _ accessPolicyId _ contractPolicyId _ assetSelector hselector createdAt _
  simpa [toJson, Json.depth, Json.membersDepth] using hselector

/-- What is read as an agreement. -/
lemma ContractAgreement.yields :
    ContractAgreement.decode.Yields (room + 1) fun a => a.toJson.depth ≤ room + 1 := by
  refine yields_decoder ?_ _
  refine yields_seq ?_ (yields_field (yields_any int64 room))
  refine yields_seq ?_ (yields_field (yields_value room))
  refine yields_seq ?_ (yields_field (yields_any string room))
  refine yields_seq ?_ (yields_field (yields_any string room))
  refine yields_seq ?_ (yields_field (yields_any string room))
  refine yields_map (yields_field (yields_any string room)) ?_
  intro id _ providerId _ consumerId _ assetId _ policy hpolicy contractSigningDate _
  simpa [toJson, Json.depth, Json.membersDepth] using hpolicy

/-- What is read as a negotiation. -/
lemma ContractNegotiation.yields :
    ContractNegotiation.decode.Yields (room + 2) fun n => n.toJson.depth ≤ room + 2 := by
  refine yields_decoder ?_ _
  refine yields_seq ?_ (yields_field (yields_any int64 _))
  refine yields_seq ?_ (yields_optionalField (ContractAgreement.yields room))
  refine yields_seq ?_ (yields_optionalField (yields_any string _))
  refine yields_seq ?_ (yields_field (yields_any int64 _))
  refine yields_seq ?_ (yields_field (yields_any int64 _))
  refine yields_seq ?_ (yields_field (yields_any NegotiationState.decode _))
  refine yields_seq ?_ (yields_field (yields_any Role.decode _))
  refine yields_seq ?_ (yields_field (yields_any string _))
  refine yields_seq ?_ (yields_field (yields_any string _))
  refine yields_seq ?_ (yields_field (yields_any string _))
  refine yields_seq ?_ (yields_optionalField (yields_any string _))
  refine yields_map (yields_field (yields_any string _)) ?_
  intro id _ correlationId _ counterPartyId _ counterPartyAddress _ protocol _ role _ state _
    stateCount _ stateTimestamp _ errorDetail _ agreement hagreement createdAt _
  -- only the agreement is a document of its own; all other fields are words and texts
  have hdepth : (ContractAgreement.toJson? agreement).depth ≤ room + 1 := by
    cases agreement with
    | none => exact Nat.zero_le _
    | some a => exact hagreement a rfl
  simpa [toJson, Role.toJson, NegotiationState.toJson, Json.depth, Json.membersDepth] using hdepth

/-- What is read as a request. -/
lemma DataRequest.yields :
    DataRequest.decode.Yields (room + 2) fun d => d.toJson.depth ≤ room + 2 := by
  have hempty : Json.Members.empty.json.depth ≤ room + 1 := Nat.succ_le_succ (Nat.zero_le _)
  refine yields_decoder ?_ _
  refine yields_seq ?_ (yields_defaultField (yields_any texts _) trivial)
  refine yields_seq ?_ (yields_defaultField (yields_members _) hempty)
  refine yields_seq ?_ (yields_field (yields_any string _))
  refine yields_seq ?_ (yields_field (yields_any string _))
  refine yields_seq ?_ (yields_field (yields_any string _))
  refine yields_seq ?_ (yields_field (yields_any string _))
  refine yields_seq ?_ (yields_field (yields_any string _))
  refine yields_map (yields_field (yields_any string _)) ?_
  intro id _ connectorAddress _ protocol _ connectorId _ assetId _ contractId _ dataDestination
    hdestination properties _
  have htexts : properties.json.depth ≤ room + 1 := (depth_texts properties).trans (by omega)
  simpa [toJson, Json.depth, Json.membersDepth] using ⟨hdestination, htexts⟩

/-- What is read as a transfer process. -/
lemma TransferProcess.yields :
    TransferProcess.decode.Yields (room + 3) fun p => p.toJson.depth ≤ room + 3 := by
  refine yields_decoder ?_ _
  refine yields_seq ?_ (yields_field (yields_any int64 _))
  refine yields_seq ?_ (yields_field (DataRequest.yields room))
  refine yields_seq ?_ (yields_optionalField (yields_any string _))
  refine yields_seq ?_ (yields_field (yields_any int64 _))
  refine yields_seq ?_ (yields_field (yields_any int64 _))
  refine yields_seq ?_ (yields_field (yields_any TransferState.decode _))
  refine yields_seq ?_ (yields_field (yields_any Role.decode _))
  refine yields_map (yields_field (yields_any string _)) ?_
  intro id _ role _ state _ stateCount _ stateTimestamp _ errorDetail _ dataRequest hrequest
    createdAt _
  simpa [toJson, Role.toJson, TransferState.toJson, Json.depth, Json.membersDepth] using hrequest

end Yields

/-! ### The types whose values are exchanged -/

/-- The types whose values are exchanged as JSON. -/
inductive WireType where
  | operator | operand | criterion | sortOrder | querySpec
  | asset | policyDefinition | contractDefinition
  | contractNegotiation | contractAgreement
  | transferProcess | dataRequest
  deriving DecidableEq, Repr

namespace WireType

/-- The values of a type. -/
def Value : WireType → Type
  | operator => Operator
  | operand => Operand
  | criterion => Criterion
  | sortOrder => SortOrder
  | querySpec => QuerySpec
  | asset => Asset
  | policyDefinition => PolicyDefinition
  | contractDefinition => ContractDefinition
  | contractNegotiation => ContractNegotiation
  | contractAgreement => ContractAgreement
  | transferProcess => TransferProcess
  | dataRequest => DataRequest

/-- The document of a value. -/
def toJson : (w : WireType) → w.Value → Json
  | operator => Operator.toJson
  | operand => Operand.toJson
  | criterion => Criterion.toJson
  | sortOrder => SortOrder.toJson
  | querySpec => QuerySpec.toJson
  | asset => Asset.toJson
  | policyDefinition => PolicyDefinition.toJson
  | contractDefinition => ContractDefinition.toJson
  | contractNegotiation => ContractNegotiation.toJson
  | contractAgreement => ContractAgreement.toJson
  | transferProcess => TransferProcess.toJson
  | dataRequest => DataRequest.toJson

/-- A value from a document. -/
def decode : (w : WireType) → Json.Decoder w.Value
  | operator => Operator.decode
  | operand => Operand.decode
  | criterion => Criterion.decode
  | sortOrder => SortOrder.decode
  | querySpec => QuerySpec.decode
  | asset => Asset.decode
  | policyDefinition => PolicyDefinition.decode
  | contractDefinition => ContractDefinition.decode
  | contractNegotiation => ContractNegotiation.decode
  | contractAgreement => ContractAgreement.decode
  | transferProcess => TransferProcess.decode
  | dataRequest => DataRequest.decode

/-- The text that a value is written as. -/
def write (w : WireType) (v : w.Value) : String := (w.toJson v).compress

/-- The value that a text is read as. -/
def read (w : WireType) (text : String) : Except Json.Fault w.Value :=
  Json.Decoder.ofText w.decode text

/-- A value is read from its document. -/
lemma reads (w : WireType) (v : w.Value) : w.decode.Reads (w.toJson v) v := by
  cases w with
  | operator => exact Criterion.reads_operator v
  | operand => exact Operand.reads v
  | criterion => exact Criterion.reads v
  | sortOrder => exact SortOrder.reads v
  | querySpec => exact QuerySpec.reads v
  | asset => exact Asset.reads v
  | policyDefinition => exact PolicyDefinition.reads v
  | contractDefinition => exact ContractDefinition.reads v
  | contractNegotiation => exact ContractNegotiation.reads v
  | contractAgreement => exact ContractAgreement.reads v
  | transferProcess => exact TransferProcess.reads v
  | dataRequest => exact DataRequest.reads v

/-- What is read from a text has a document that is not too deep to be read again. -/
lemma yields (w : WireType) :
    w.decode.Yields Json.maxDepth fun v => (w.toJson v).depth ≤ Json.maxDepth := by
  cases w with
  | operator => exact fun _ _ _ _ => Nat.zero_le _
  | operand => exact Operand.yields _
  | criterion => exact Criterion.yields _
  | sortOrder => exact fun _ _ _ _ => Nat.zero_le _
  | querySpec => exact QuerySpec.yields _
  | asset => exact Asset.yields _
  | policyDefinition => exact PolicyDefinition.yields _
  | contractDefinition => exact ContractDefinition.yields _
  | contractNegotiation => exact ContractNegotiation.yields _
  | contractAgreement => exact ContractAgreement.yields _
  | transferProcess => exact TransferProcess.yields _
  | dataRequest => exact DataRequest.yields _

lemma read_write_of_isReadable {w : WireType} {v : w.Value} (h : (w.toJson v).IsReadable) :
    w.read (w.write v) = .ok v :=
  Json.Decoder.ofText_compress h (w.reads v)

/-- A value is read as what was written if its document can be read again: if its numbers are
integers and it is not nested too deep.  The value of a text of whatever form is never nested too
deep, so once it is written it is read as the same value again. -/
theorem read_write (w : WireType) :
    (∀ v, (w.toJson v).IsReadable → w.read (w.write v) = .ok v) ∧
    ∀ text v, w.read text = .ok v → (w.toJson v).IsIntegral → w.read (w.write v) = .ok v := by
  constructor
  · intro v h
    exact read_write_of_isReadable h
  · intro text v h hintegral
    have hdepth : (w.toJson v).depth ≤ Json.maxDepth := Json.Decoder.yields_ofText w.yields h
    exact read_write_of_isReadable ⟨hintegral, hdepth⟩

/-- A negotiation without an agreement, and a contract definition from an array of its fields, with
a criterion whose members are in another order, one of them unknown, and whose operator is an object
under its other name. -/
theorem read_write_of_array :
    let n := ContractNegotiation.new "n\x00" .provider "" "\"😀\\" (-9223372036854775808)
    let text := "[\"d\", \"\", \"\\u00e9\\n\", [\x7b\"operandRight\": [-1, [\"x\", []]], " ++
      "\"note\": 0.5, \"operandLeft\": \"'p'\", \"operator\": \x7b\"IN\": null\x7d\x7d], 7]"
    let d : ContractDefinition := ⟨"d", "", "é\n",
      [⟨"'p'", .oneOf, .list [.int (-1), .list [.text "x", .list []]]⟩], 7⟩
    (contractNegotiation.toJson n).IsReadable ∧
      contractNegotiation.read (contractNegotiation.write n) = .ok n ∧
      contractDefinition.read text = .ok d ∧ (contractDefinition.toJson d).IsIntegral ∧
      contractDefinition.read (contractDefinition.write d) = .ok d := by
  intro n text d
  have hn : (ContractNegotiation.toJson n).IsReadable :=
    ⟨by simp [n, ContractNegotiation.new, ContractNegotiation.toJson, Json.ofText?, Role.toJson,
      NegotiationState.toJson, ContractAgreement.toJson?, Json.ofInt64, Json.Number.ofInt64,
      Json.IsIntegral, Json.MembersIntegral], by decide⟩
  have hd : (ContractDefinition.toJson d).IsIntegral := by
    simp [d, ContractDefinition.toJson, Criterion.listToJson, Criterion.toJson, Operator.toJson,
      Operand.toJson, Operand.itemsToJson, Json.ofInt64, Json.Number.ofInt64, Json.IsIntegral,
      Json.AllIntegral, Json.MembersIntegral]
  have hread : Json.Decoder.ofText ContractDefinition.decode text = .ok d := by decide +kernel
  exact ⟨hn, (read_write contractNegotiation).1 n hn, hread, hd,
    (read_write contractDefinition).2 text d hread hd⟩

end WireType

end LeasedStore
