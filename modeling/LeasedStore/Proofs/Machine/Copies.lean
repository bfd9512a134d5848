/-
Columns that repeat what is in a document, and what is looked up by them.

A negotiation has the ids of its agreement and of its asset in columns of their own, a transfer
those of its request, its asset and its contract.  Rows are written as a whole, so the columns and
the document never differ, and a look-up by a column finds what a look through the documents would.

* `Json.textUnder?`: the text under a key of a document;
* `Row.Copies`, `Row.IsInStep`: does a column hold what the document says, and do all of them?
* `Row.isInStep_row`: the row of an entity;
* `IsFirst`: is an entity the first of those stored that have a property?
* `Machine.Represents.findFirst_eq`: the entity that a criterion on a text column finds;
* `Machine.isInStep_of_founded`: all rows, and all look-ups, whatever was asked before.
-/
import LeasedStore.Proofs.Machine.Query
import LeasedStore.Proofs.Store.Matching

namespace LeasedStore

/-! ### Documents and their copies -/

/-- The text under a key of the object that a text is. -/
def Json.textUnder? (key text : String) : Option String :=
  match Json.Decoder.ofText (fun _ d => Json.Decoder.asJson d) text with
  | .error _ => none
  | .ok j =>
    match j.member? key with
    | some (.string s) => some s
    | _ => none

/-- The text under a key of an object that was written. -/
lemma Json.textUnder?_compress {j : Json} {key s : String} (hj : j.IsReadable)
    (h : j.member? key = some (.string s)) : Json.textUnder? key j.compress = some s := by
  have hread : Json.Decoder.ofText (fun _ d => Json.Decoder.asJson d) j.compress = .ok j :=
    Json.Decoder.ofText_compress hj fun _ => Json.Decoder.asJson_ofJson j
  rw [textUnder?, hread]
  simp only [h]

namespace StatefulKind

/-- The column of the document that some columns repeat parts of. -/
def document : StatefulKind → String
  | contractNegotiation => "contract_agreement"
  | transferProcess => "data_request"

/-- The columns that repeat texts of the document, and the keys that the texts stand under. -/
def copies : StatefulKind → List (String × String)
  | contractNegotiation => [("agreement_id", "id"), ("agreement_asset_id", "assetId")]
  | transferProcess =>
    [("data_request_id", "id"), ("asset_id", "assetId"), ("contract_id", "contractId")]

/-- The id by which the counter-party knows an entity. -/
def correlation? : (k : StatefulKind) → k.kind.Record → Option String
  | contractNegotiation, (n : ContractNegotiation) => n.correlationId
  | transferProcess, (p : TransferProcess) => some p.dataRequest.id

end StatefulKind

namespace Row

/-- Does a column hold the text under a key of the document in another one, and nothing if there is
no document? -/
def Copies (r : Row) (document column key : String) : Prop :=
  match r.cell document with
  | .null => r.cell column = .null
  | .text text => ∃ s, Json.textUnder? key text = some s ∧ r.cell column = .text s
  | _ => False

/-- Do all columns of an entity that repeat parts of its document hold what the document says?  A
transfer always has a document. -/
structure IsInStep (k : StatefulKind) (r : Row) : Prop where
  hasDocument : k = .transferProcess → r.cell k.document ≠ .null
  copies : ∀ c ∈ k.copies, r.Copies k.document c.1 c.2

/-- A column beside a document that was written. -/
lemma copies_of_compress {r : Row} {document column key s : String} {j : Json}
    (hdocument : r.cell document = .text j.compress) (hcolumn : r.cell column = .text s)
    (hj : j.IsReadable) (hmember : j.member? key = some (.string s)) :
    r.Copies document column key := by
  rw [Copies, hdocument]
  exact ⟨s, Json.textUnder?_compress hj hmember, hcolumn⟩

lemma copies_of_null {r : Row} {document column key : String} (hdocument : r.cell document = .null)
    (hcolumn : r.cell column = .null) : r.Copies document column key := by
  rw [Copies, hdocument]
  exact hcolumn

/-- The row of an entity whose documents can be read again. -/
lemma isInStep_row {k : StatefulKind} (e : k.kind.Record) (h : Entity.IsStorable e) :
    (Entity.row e).IsInStep k := by
  cases k with
  | contractNegotiation =>
      refine ⟨fun hk => (by cases hk), ?_⟩
      change ContractNegotiation at e
      -- without an agreement its columns are null, and with one they are copied from its document
      cases ha : e.agreement with
      | none =>
          have hcell {f : ContractAgreement → String} :
              StorageType.text.store (Param.nullableText (e.agreement.map f)).cell = .null := by
            rw [ha]
            rfl
          simp only [StatefulKind.copies, List.forall_mem_cons]
          exact ⟨copies_of_null hcell hcell, copies_of_null hcell hcell, by simp⟩
      | some a =>
          have hcell {f : ContractAgreement → String} :
              StorageType.text.store (Param.nullableText (e.agreement.map f)).cell =
                .text (f a) := by
            rw [ha]
            rfl
          have hmem : a.toJson ∈ (e.agreement.map ContractAgreement.toJson).toList := by simp [ha]
          have hj : a.toJson.IsReadable := h _ hmem
          simp only [StatefulKind.copies, List.forall_mem_cons]
          exact ⟨copies_of_compress hcell hcell hj rfl, copies_of_compress hcell hcell hj rfl,
            by simp⟩
  | transferProcess =>
      change TransferProcess at e
      have hj : e.dataRequest.toJson.IsReadable := h _ (List.mem_singleton_self _)
      refine ⟨fun _ hnull => (by cases hnull), ?_⟩
      simp only [StatefulKind.copies, List.forall_mem_cons]
      exact ⟨copies_of_compress rfl rfl hj rfl, copies_of_compress rfl rfl hj rfl,
        copies_of_compress rfl rfl hj rfl, by simp⟩

end Row

/-! ### Look-ups -/

/-- Is an entity the first, by the bytes of their ids, of those stored that have a property, or is
there none of them? -/
def IsFirst {k : StoreKind} (stored : String → Option k.Record) (p : k.Record → Prop) :
    Option k.Record → Prop
  | some e => stored (Entity.id e) = some e ∧ p e ∧
      ∀ id e', stored id = some e' → p e' → (Text.order (Entity.id e) id).isLE = true
  | none => ∀ id e, stored id = some e → ¬ p e

/-- The first of the answers to a query for one entity. -/
lemma QuerySpec.isFirst_head?_answer {k : StoreKind} {es : List k.Record}
    {stored : String → Option k.Record} (h : Lists es stored)
    (hid : ∀ id e, stored id = some e → Entity.id e = id) (filter : List Criterion) :
    let spec := EntityStore.firstOf filter
    IsFirst stored (fun e => spec.isMet e = true) (spec.answer es).head? := by
  intro spec
  have hmem (e : k.Record) : e ∈ spec.found es ↔ e ∈ es ∧ spec.isMet e = true := by
    rw [found, List.mem_mergeSort, List.mem_filter]
  have hsorted : (spec.found es).Pairwise fun a b => (spec.order a b).isLE = true :=
    pairwise_mergeSort _ _
  -- such a query asks for one entity, from the first one on
  have hhead : (spec.answer es).head? = (spec.found es).head? := by
    rw [answer]
    change (((spec.found es).drop 0).take 1).head? = _
    cases spec.found es <;> rfl
  rw [hhead]
  cases hfound : spec.found es with
  | nil =>
      intro id e hstored hmet
      have he : e ∈ es := (h.mem_iff e).mpr (by rw [hid id e hstored]; exact hstored)
      have hin : e ∈ spec.found es := (hmem e).mpr ⟨he, hmet⟩
      rw [hfound] at hin
      cases hin
  | cons e rest =>
      obtain ⟨he, hmet⟩ := (hmem e).mp (by rw [hfound]; exact List.mem_cons_self ..)
      -- whatever else matches is listed too, and what is listed is sorted
      refine ⟨(h.mem_iff e).mp he, hmet, fun id e' hstored hmet' => ?_⟩
      have hid' : Entity.id e' = id := hid id e' hstored
      have he' : e' ∈ es := (h.mem_iff e').mpr (by rw [hid']; exact hstored)
      have hin : e' ∈ spec.found es := (hmem e').mpr ⟨he', hmet'⟩
      rw [hfound] at hin hsorted
      rcases List.mem_cons.mp hin with rfl | hin
      · rw [hid']
        exact Std.ReflCmp.isLE_rfl
      · have hle := (List.pairwise_cons.mp hsorted).1 e' hin
        rw [← hid']
        exact hle

/-- A text is equal to another one if they are the same. -/
lemma Criterion.isMet_equals_text {property s : String} {t : Option String} :
    (Criterion.equals property (.text s)).isMet (.text t) = true ↔ t = some s := by
  cases t with
  | none => simp [isMet]
  | some t =>
      change (decide (Text.order t s = .eq)) = true ↔ _
      rw [decide_eq_true_iff, Option.some_inj]
      exact ⟨Text.eq_of_order, fun h => h ▸ Std.ReflCmp.compare_self⟩

/-- There is a query for a text in a column of texts. -/
lemma TableMapping.exists_select_of_text {m : TableMapping} {property : String} {column : Column}
    (h : m.target? property = some (.column column)) (hk : column.kind = .text) (s : String) :
    ∃ query, m.select .sqlite (EntityStore.firstOf [.equals property (.text s)]) = .ok query := by
  let criterion : Criterion := .equals property (.text s)
  have hcondition : (criterion.condition m .sqlite).runOn [] =
      (.ok (.compare (.column column.name) .equal ⟨1⟩), [.text s]) := by
    simp only [criterion, Criterion.condition, Criterion.equals, h]
    simp only [Criterion.conditionOn, Operator.equal, Target.kind, hk, coerce]
    rfl
  have hfilter : (filterConditions m .sqlite [criterion]).runOn [] =
      (.ok [.compare (.column column.name) .equal ⟨1⟩], [.text s]) :=
    Binding.bind_eq_ok.mpr ⟨_, _, hcondition, rfl⟩
  refine ⟨⟨⟨.columns m.columnNames, m.table, [.compare (.column column.name) .equal ⟨1⟩],
    [(m.idColumn, .ascending)], some ⟨2⟩, some ⟨3⟩⟩, [.text s, countParam 1, countParam 0]⟩, ?_⟩
  exact Select.Bound.of_eq_ok.mpr (Binding.bind_eq_ok.mpr ⟨_, _, hfilter, rfl⟩)

namespace Machine

variable {m : Machine} {b : Backend} {k : StoreKind}

/-- What a criterion on a column of texts finds. -/
lemma Represents.findFirst_eq (h : m.Represents b) (s : EntityStore k.Record) {property : String}
    {column : Column} (ht : k.schema.mapping.target? property = some (.column column))
    (hk : column.kind = .text) {f : k.Record → Option String}
    (hpath : ∀ e : k.Record, QueriedEntity.path? e property = none)
    (hvalue : ∀ e : k.Record, QueriedEntity.value e property = .text (f e))
    (hplain : '\\' ∉ property.toList ∧ '\x00' ∉ property.toList) (text : String) :
    ∃ e?, IsFirst (m.entities k) (fun e => f e = some text) e? ∧
      s.findFirst (.equals property (.text text)) b = .ok e? := by
  obtain ⟨es, hholds, hlists⟩ := h.exists_holds k
  obtain ⟨query, hq⟩ := TableMapping.exists_select_of_text ht hk text
  let spec := EntityStore.firstOf [.equals property (.text text)]
  have hmet (e : k.Record) : spec.isMet e = true ↔ f e = some text := by
    have hall : spec.isMet e =
        (Criterion.equals property (.text text)).isMet (QueriedEntity.value e property) :=
      Bool.and_true _
    rw [hall, hvalue]
    exact Criterion.isMet_equals_text
  refine ⟨(spec.answer es).head?, ?_, ?_⟩
  · have hfirst := QuerySpec.isFirst_head?_answer hlists
      (fun id e he => (h.stored k id e he).1) [.equals property (.text text)]
    have hsame : (fun e => f e = some text) = fun e => spec.isMet e = true :=
      funext fun e => propext (hmet e).symm
    rw [hsame]
    exact hfirst
  -- the criterion is on a column, so no path leads into a document
  · have haddressed : spec.IsAddressed es := by
      intro e _ c hc
      rw [List.mem_singleton.mp hc]
      refine ⟨hplain.1, hplain.2, fun j keys hp => ?_, fun j keys m hp => ?_⟩
      · cases (hpath e).symm.trans hp
      · cases (hpath e).symm.trans hp
    have hstorable : ∀ e ∈ spec.answer es, Entity.IsStorable e := by
      intro e he
      have hfound : e ∈ spec.found es := List.mem_of_mem_drop (List.mem_of_mem_take he)
      exact hholds.isStorable e (List.mem_filter.mp (List.mem_mergeSort.mp hfound)).1
    have hmodest : s.mapping.IsModest spec.filter 2 0 :=
      TableMapping.isModest_equals _ _ (by decide) (by decide)
    have hfits : query.Fits := TableMapping.fits_of_isModest hmodest hq
    have hall : s.readAll spec b = .ok (spec.answer es) := by
      rw [EntityStore.readAll_of_select hq, EntityStore.readPages_of_limit_one rfl,
        EntityStore.readRows_eq h.isOpen hholds haddressed hq hfits]
      exact mapM_ofRow_row hstorable
    exact Reading.bind_of_ok hall _

/-- The entity that a counter-party knows under an id. -/
lemma Represents.findCorrelated_eq (h : m.Represents b) {k : StatefulKind}
    (s : EntityStore k.kind.Record) (id : String) :
    ∃ e?, IsFirst (m.entities k.kind) (fun e => k.correlation? e = some id) e? ∧
      s.findCorrelated id b = .ok e? := by
  cases k with
  | contractNegotiation =>
      have ht : ContractNegotiation.schema.mapping.target? "correlationId" =
          some (.column ⟨"correlationId", "correlation_id", .text⟩) := by decide +kernel
      exact h.findFirst_eq s ht rfl (fun _ => rfl) (fun _ => rfl) (by decide) id
  | transferProcess =>
      have ht : TransferProcess.schema.mapping.target? "dataRequest.id" =
          some (.column ⟨"dataRequest.id", "data_request_id", .text⟩) := by decide +kernel
      exact h.findFirst_eq s ht rfl (fun _ => rfl) (fun _ => rfl) (by decide) id

/-- Whatever was asked of the stores before, the columns that repeat parts of a document are in step
with it.  So an agreement is found if some negotiation carries one with its id, and the one that is
found is that of the first such negotiation; and the entity that a counter-party knows under an id
is the first one that it knows so. -/
theorem isInStep_of_founded (now : Int64) (qs : List (ControlPlane × Request))
    (hs : ∀ q ∈ qs, q.2.IsStorable) :
    let out := Request.runAll qs (Backend.founded now)
    let stored (k : StoreKind) (id : String) := lastLeft k id ((qs.map Prod.snd).zip out.1) none
    (∀ k : StatefulKind, ∃ t, out.2.database.table? k.kind.schema.mapping.table = some t ∧
      ∀ r ∈ t.rows, r.IsInStep k) ∧
    (∀ (c : ControlPlane) (id : String), ∃ n?,
      IsFirst (stored .contractNegotiation)
        (fun n : ContractNegotiation => n.agreement.map ContractAgreement.id = some id) n? ∧
      ContractNegotiation.findAgreement (c.store .contractNegotiation) id out.2 =
        .ok (n?.bind ContractNegotiation.agreement)) ∧
    ∀ (c : ControlPlane) (k : StatefulKind) (id : String), ∃ e?,
      IsFirst (stored k.kind) (fun e => k.correlation? e = some id) e? ∧
      (c.store k.kind).findCorrelated id out.2 = .ok e? := by
  intro out stored
  obtain ⟨hanswers, hrep⟩ := agrees_run (.start now) qs hs
  have hstored (k : StoreKind) : stored k = (run qs (start now)).2.entities k := by
    funext id
    rw [entities_run, ← hanswers]
    rfl
  refine ⟨fun k => ?_, fun c id => ?_, fun c k id => ?_⟩
  · obtain ⟨t, ht⟩ := hrep.hasTable k.kind
    refine ⟨t, ht, fun r hr => ?_⟩
    obtain ⟨e, rfl, he⟩ := hrep.exists_entity ht hr
    exact Row.isInStep_row e (hrep.stored k.kind _ e he).2
  · rw [hstored]
    have ht : ContractNegotiation.schema.mapping.target? "contractAgreement.id" =
        some (.column ⟨"contractAgreement.id", "agreement_id", .text⟩) := by decide +kernel
    obtain ⟨n?, hfirst, hfind⟩ := hrep.findFirst_eq (c.store .contractNegotiation) ht rfl
      (fun _ => rfl) (fun _ => rfl) (by decide) id
    refine ⟨n?, hfirst, ?_⟩
    exact Reading.bind_of_ok hfind _
  · rw [hstored]
    exact hrep.findCorrelated_eq (c.store k.kind) id

/-- Two negotiations with one agreement, the first of which loses it again, and a transfer under the
agreement. -/
theorem isInStep_of_lost_agreement :
    let c : ControlPlane := ⟨"here", 1000, 10⟩
    let a : ContractAgreement := ⟨"a", "p", "c", "asset", .ofJson (.ofInt64 7), 5⟩
    let n (id : String) : ContractNegotiation := .new id .consumer "p" "there" 0
    let p : TransferProcess := .new "t" .consumer (.new "r" "asset" "a") 0
    let qs : List (ControlPlane × Request) :=
      [(c, .create .contractNegotiation ((n "m").withAgreement a)),
        (c, .create .contractNegotiation ((n "n").withAgreement a)),
        (c, .lease .contractNegotiation (.acquire "m" "here")),
        (c, .update .contractNegotiation (n "m") "here"), (c, .create .transferProcess p)]
    let out := Request.runAll qs (Backend.founded 0)
    let stored (k : StoreKind) (id : String) := lastLeft k id ((qs.map Prod.snd).zip out.1) none
    (∀ q ∈ qs, q.2.IsStorable) ∧
      stored .contractNegotiation "m" = some (n "m") ∧
      (∃ n' : ContractNegotiation, IsFirst (stored .contractNegotiation)
          (fun n : ContractNegotiation => n.agreement.map ContractAgreement.id = some "a")
          (some n') ∧
        ContractNegotiation.findAgreement (c.store .contractNegotiation) "a" out.2 =
          .ok n'.agreement) ∧
      ∃ p' : TransferProcess, IsFirst (stored .transferProcess)
          (fun p : TransferProcess => some p.dataRequest.id = some "r") (some p') ∧
        (c.store .transferProcess).findCorrelated (k := .transferProcess) "r" out.2 =
          .ok (some p') := by
  intro c a n p qs out stored
  have ha : a.toJson.IsReadable :=
    ⟨by simp [a, ContractAgreement.toJson, Json.Value.ofJson, Json.ofInt64, Json.Number.ofInt64,
      Json.canonical, Json.IsIntegral, Json.MembersIntegral], by decide⟩
  have hp : p.dataRequest.toJson.IsReadable :=
    ⟨by simp [p, TransferProcess.new, DataRequest.new, DataRequest.toJson, Json.Members.json,
      Json.Members.empty, Json.Texts.json, Json.Texts.empty, Json.IsIntegral,
      Json.MembersIntegral], by decide⟩
  have hs : ∀ q ∈ qs, q.2.IsStorable := by
    have hn (id : String) : Entity.IsStorable ((n id).withAgreement a) := by
      intro j hj
      cases List.mem_singleton.mp hj
      exact ha
    have hplain (id : String) : Entity.IsStorable (n id) := fun j hj => by cases hj
    have htransfer : Entity.IsStorable p := by
      intro j hj
      cases List.mem_singleton.mp hj
      exact hp
    simp only [qs, List.forall_mem_cons]
    exact ⟨hn "m", hn "n", trivial, hplain "m", htransfer, by simp⟩
  obtain ⟨-, hagreement, hcorrelated⟩ := isInStep_of_founded 0 qs hs
  -- of the two agreements with the id one was overwritten, so the other one is found
  have hm : stored .contractNegotiation "m" = some (n "m") := by
    dsimp only [stored, out, qs, c, n, p, a]
    rfl
  have hn : stored .contractNegotiation "n" = some ((n "n").withAgreement a) := by
    dsimp only [stored, out, qs, c, n, p, a]
    rfl
  have ht : stored .transferProcess "t" = some p := by
    dsimp only [stored, out, qs, c, n, p, a]
    rfl
  refine ⟨hs, hm, ?_, ?_⟩
  · obtain ⟨n?, hfirst, hfind⟩ := hagreement c "a"
    cases n? with
    | none => exact absurd rfl (hfirst "n" ((n "n").withAgreement a) hn)
    | some n' => exact ⟨n', hfirst, hfind⟩
  · obtain ⟨p?, hfirst, hfind⟩ := hcorrelated c .transferProcess "r"
    cases p? with
    | none => exact absurd rfl (hfirst "t" p ht)
    | some p' => exact ⟨p', hfirst, hfind⟩

end Machine

end LeasedStore
