/-
Entities that are read from the rows that they were written as.

* `DocumentedEntity`: the documents of an entity, and its row read as the entity that it is;
* `Entity.IsStorable`: entities whose documents can be read again;
* `Operand.reads`, `Criterion.reads`, `ContractAgreement.reads`, `DataRequest.reads`: values that
  are read from their documents;
* the five types of entities are documented, and so is `StoreKind.Record` for every kind.
-/
import LeasedStore.Proofs.Entity.Lawful
import LeasedStore.Proofs.Json.Decoding

namespace LeasedStore

/-- A type of entities whose rows are read as the entities that they were written as. -/
class DocumentedEntity (α : Type) [Entity α] where
  /-- The documents in the row of an entity. -/
  documents : α → List Json
  ofRow_row (e : α) (h : ∀ j ∈ documents e, j.IsReadable) : Entity.ofRow (Entity.row e) = .ok e

/-- Can the documents of an entity be read again? -/
def Entity.IsStorable {α : Type} [Entity α] [DocumentedEntity α] (e : α) : Prop :=
  ∀ j ∈ DocumentedEntity.documents e, j.IsReadable

/-! ### Criteria -/

namespace Operand

mutual

/-- The operand that the document of an operand stands for. -/
theorem ofJson?_toJson : ∀ o : Operand, ofJson? o.toJson = some o
  | .int n => by
      simp only [toJson, Json.ofInt64, Json.Number.ofInt64, ofJson?, Json.Decoder.fitInt64?_toInt]
      rfl
  | .text s => rfl
  | .list items => by
      rw [toJson, ofJson?, itemsOfJson?_itemsToJson items]
      rfl

theorem itemsOfJson?_itemsToJson : ∀ os : List Operand, itemsOfJson? (itemsToJson os) = some os
  | [] => rfl
  | o :: rest => by
      rw [itemsToJson, itemsOfJson?, ofJson?_toJson o, itemsOfJson?_itemsToJson rest]

end

lemma reads (o : Operand) : Operand.decode.Reads o.toJson o := by
  intro source
  rw [decode, Json.Decoder.asJson_ofJson]
  simp only [ofJson?_toJson]

end Operand

namespace Criterion

lemma reads_operator (o : Operator) : Operator.decode.Reads o.toJson o := by
  refine Json.Decoder.reads_choice ?_
  cases o with
  | compare c => cases c <;> decide
  | oneOf => decide

open Json.Record in
/-- A criterion is read from its document. -/
lemma reads (c : Criterion) : Criterion.decode.Reads c.toJson c := by
  obtain ⟨property, operator, operand⟩ := c
  refine reads_decoder ?_ _
  refine reads_seq_field [_, _] operand.reads (by simp [field]) ?_
  refine reads_seq_field [_] (reads_operator operator) (by simp [field]) ?_
  exact reads_map (reads_fieldWith (Json.Decoder.reads_string property))

lemma reads_list (cs : List Criterion) :
    (Json.Decoder.listOf Criterion.decode).Reads (listToJson cs) cs :=
  Json.Decoder.reads_listOf fun c _ => c.reads

end Criterion

/-! ### Agreements and requests -/

section

open Json.Record Json.Decoder

/-- An agreement is read from its document. -/
lemma ContractAgreement.reads (a : ContractAgreement) :
    ContractAgreement.decode.Reads a.toJson a := by
  obtain ⟨id, providerId, consumerId, assetId, policy, contractSigningDate⟩ := a
  refine reads_decoder ?_ _
  refine reads_seq_field [_, _, _, _, _] (reads_int64 contractSigningDate) (by simp [field]) ?_
  refine reads_seq_field [_, _, _, _] (reads_value policy) (by simp [field]) ?_
  refine reads_seq_field [_, _, _] (reads_string assetId) (by simp [field]) ?_
  refine reads_seq_field [_, _] (reads_string consumerId) (by simp [field]) ?_
  refine reads_seq_field [_] (reads_string providerId) (by simp [field]) ?_
  exact reads_map (reads_fieldWith (reads_string id))

/-- A request is read from its document. -/
lemma DataRequest.reads (d : DataRequest) : DataRequest.decode.Reads d.toJson d := by
  obtain ⟨id, connectorAddress, protocol, connectorId, assetId, contractId, dataDestination,
    properties⟩ := d
  refine reads_decoder ?_ _
  refine reads_seq_field [_, _, _, _, _, _, _] (reads_texts properties)
    (by simp [field, defaultField]) ?_
  refine reads_seq_field [_, _, _, _, _, _] (reads_members dataDestination) (by simp [field]) ?_
  refine reads_seq_field [_, _, _, _, _] (reads_string contractId) (by simp [field]) ?_
  refine reads_seq_field [_, _, _, _] (reads_string assetId) (by simp [field]) ?_
  refine reads_seq_field [_, _, _] (reads_string connectorId) (by simp [field]) ?_
  refine reads_seq_field [_, _] (reads_string protocol) (by simp [field]) ?_
  refine reads_seq_field [_] (reads_string connectorAddress) (by simp [field]) ?_
  exact reads_map (reads_fieldWith (reads_string id))

end

/-! ### Rows -/

namespace Row

variable {α : Type} {r : Row} {column : String} {decode : Json.Decoder α} {j : Json} {a : α}

lemma ofDocument_compress (hj : j.IsReadable) (h : decode.Reads j a) :
    ofDocument column decode j.compress = .ok a := by
  rw [ofDocument, Json.Decoder.ofText_compress hj h]

lemma document_of_text (ht : r.text column = .ok j.compress) (hj : j.IsReadable)
    (h : decode.Reads j a) : r.document column decode = .ok a := by
  rw [document, ht]
  exact ofDocument_compress hj h

/-- A document is read from a column that might have none. -/
lemma document?_of_text? (ht : r.text? column = .ok (some j.compress)) (hj : j.IsReadable)
    (h : decode.Reads j a) : r.document? column decode = .ok (some a) := by
  rw [document?, ht]
  change (ofDocument column decode j.compress >>= _) = _
  rw [ofDocument_compress hj h]
  rfl

lemma document?_of_none (ht : r.text? column = .ok none) :
    r.document? column decode = .ok none := by
  rw [document?, ht]
  rfl

/-- A text that may be absent is read from its column. -/
lemma text?_of_cell {s : Option String}
    (h : r.cell column = StorageType.text.store (Param.nullableText s).cell) :
    r.text? column = .ok s := by
  cases s with
  | none => rw [text?, h]; rfl
  | some s => rw [text?, h]; simp only [text, h]; rfl

end Row

lemma Role.parse_name (entity : String) (r : Role) : Role.parse entity r.name = .ok r := by
  cases r <;> rfl

lemma NegotiationState.ofCode?_code (s : NegotiationState) : ofCode? s.code = some s := by
  cases s <;> decide

lemma TransferState.ofCode?_code (s : TransferState) : ofCode? s.code = some s := by
  cases s <;> decide

lemma injective_of_ofCode? {σ : Type} {code : σ → Int64} {ofCode? : Int64 → Option σ}
    (h : ∀ s, ofCode? (code s) = some s) : Function.Injective code := by
  intro s t hst
  have hread := congrArg ofCode? hst
  rwa [h, h, Option.some.injEq] at hread

lemma stateOfCode_of_some {σ : Type} {ofCode? : Int64 → Option σ} {code : Int64} {s : σ}
    (h : ofCode? code = some s) : stateOfCode ofCode? code = .ok s := by
  rw [stateOfCode, h]

/-! ### The five types -/

open Json.Decoder in
instance : DocumentedEntity Asset where
  documents a := [a.properties.json, a.dataAddress.json]
  ofRow_row a h := by
    have hproperties : (Entity.row a).document "properties" members = .ok a.properties :=
      Row.document_of_text rfl (h _ (by simp)) (reads_members _)
    have haddress : (Entity.row a).document "data_address" members = .ok a.dataAddress :=
      Row.document_of_text rfl (h _ (by simp)) (reads_members _)
    change Asset.ofRow (Entity.row a) = _
    rw [Asset.ofRow, hproperties, haddress]
    rfl

instance : DocumentedEntity PolicyDefinition where
  documents p := [p.policy.json]
  ofRow_row p h := by
    have hpolicy : (Entity.row p).document "policy" Json.Decoder.value = .ok p.policy :=
      Row.document_of_text rfl (h _ (by simp)) (Json.Decoder.reads_value _)
    change PolicyDefinition.ofRow (Entity.row p) = _
    rw [PolicyDefinition.ofRow, hpolicy]
    rfl

instance : DocumentedEntity ContractDefinition where
  documents d := [Criterion.listToJson d.assetSelector]
  ofRow_row d h := by
    have hselector : (Entity.row d).document "asset_selector"
        (Json.Decoder.listOf Criterion.decode) = .ok d.assetSelector :=
      Row.document_of_text rfl (h _ (by simp)) (Criterion.reads_list _)
    change ContractDefinition.ofRow (Entity.row d) = _
    rw [ContractDefinition.ofRow, hselector]
    rfl

instance : DocumentedEntity ContractNegotiation where
  documents n := (n.agreement.map ContractAgreement.toJson).toList
  ofRow_row n h := by
    have hcorrelation : (Entity.row n).text? "correlation_id" = .ok n.correlationId :=
      Row.text?_of_cell rfl
    have hdetail : (Entity.row n).text? "error_detail" = .ok n.errorDetail :=
      Row.text?_of_cell rfl
    have htext : (Entity.row n).text? "contract_agreement" =
        .ok (n.agreement.map fun a => a.toJson.compress) := Row.text?_of_cell rfl
    have hagreement : (Entity.row n).document? "contract_agreement" ContractAgreement.decode =
        .ok n.agreement := by
      cases ha : n.agreement with
      | none => exact Row.document?_of_none (by rw [htext, ha]; rfl)
      | some a =>
          have hj : a.toJson.IsReadable := h _ (by simp [ha])
          exact Row.document?_of_text? (by rw [htext, ha]; rfl) hj a.reads
    have hrole : ContractNegotiation.parseRole n.role.name = .ok n.role := Role.parse_name _ _
    have hstate : stateOfCode NegotiationState.ofCode? n.state.code = .ok n.state :=
      stateOfCode_of_some n.state.ofCode?_code
    change ContractNegotiation.ofRow (Entity.row n) = _
    rw [ContractNegotiation.ofRow, hcorrelation, hdetail, hagreement]
    change (ContractNegotiation.parseRole n.role.name >>= fun role =>
      stateOfCode NegotiationState.ofCode? n.state.code >>= fun state => _) = _
    rw [hrole, hstate]
    rfl

instance : DocumentedEntity TransferProcess where
  documents p := [p.dataRequest.toJson]
  ofRow_row p h := by
    have hrequest : (Entity.row p).document "data_request" DataRequest.decode =
        .ok p.dataRequest := Row.document_of_text rfl (h _ (by simp)) (DataRequest.reads _)
    have hdetail : (Entity.row p).text? "error_detail" = .ok p.errorDetail :=
      Row.text?_of_cell rfl
    have hrole : TransferProcess.parseRole p.role.name = .ok p.role := Role.parse_name _ _
    have hstate : stateOfCode TransferState.ofCode? p.state.code = .ok p.state :=
      stateOfCode_of_some p.state.ofCode?_code
    change TransferProcess.ofRow (Entity.row p) = _
    rw [TransferProcess.ofRow, hrequest, hdetail]
    change (TransferProcess.parseRole p.role.name >>= fun role =>
      stateOfCode TransferState.ofCode? p.state.code >>= fun state => _) = _
    rw [hrole, hstate]
    rfl

/-- The entities of every kind are documented. -/
instance StoreKind.instDocumentedEntity : (k : StoreKind) → DocumentedEntity k.Record
  | asset => inferInstanceAs (DocumentedEntity Asset)
  | policyDefinition => inferInstanceAs (DocumentedEntity PolicyDefinition)
  | contractDefinition => inferInstanceAs (DocumentedEntity ContractDefinition)
  | contractNegotiation => inferInstanceAs (DocumentedEntity ContractNegotiation)
  | transferProcess => inferInstanceAs (DocumentedEntity TransferProcess)

end LeasedStore
