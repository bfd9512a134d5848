/-
What negotiations and transfer processes remember of their histories.

Between any two events an entity may be saved and read again, by whatever store and however often.
That leaves no trace: the entity is what the events alone make of it, and each of its fields is the
last thing that an event put there, or what it was at the start.

* `StatefulKind.Lives`: what an entity may be after some events, with reloads between them;
* `StatefulKind.Lives.keeps`: what every event keeps, a life keeps;
* `ContractNegotiation.IsAfter`, `TransferProcess.IsAfter`: what there is to say of all fields;
* `isAfter_of_lives`: it holds of every life, and what is saved is found again.
-/
import LeasedStore.Proofs.Entity.Ledger
import LeasedStore.Proofs.Store.Reload
import LeasedStore.Proofs.Store.Schema

namespace LeasedStore

/-! ### Lives -/

/-- May an entity become another one by some events?  Before and after each of them it may be saved
and read again, if its documents have no numbers but integers, and what counts its states can still
count on when something happens. -/
inductive StatefulKind.Lives (k : StatefulKind) {ε : Type}
    (apply : k.kind.Record → ε → k.kind.Record) (count : k.kind.Record → Int64)
    (start : k.kind.Record) : List ε → k.kind.Record → Prop where
  | start : Lives k apply count start [] start
  | event {events : List ε} {e : k.kind.Record} (h : Lives k apply count start events e)
      (hcount : count e < Int64.maxValue) (event : ε) :
      Lives k apply count start (events ++ [event]) (apply e event)
  | reload {events : List ε} {e e' : k.kind.Record} (h : Lives k apply count start events e)
      (he : Entity.IsIntegral e) (hreload : Reloads e e') : Lives k apply count start events e'

/-- What holds at the start, and is kept by every event, holds after any life. -/
lemma StatefulKind.Lives.keeps {k : StatefulKind} {ε : Type}
    {apply : k.kind.Record → ε → k.kind.Record} {count : k.kind.Record → Int64}
    {start e : k.kind.Record} {events : List ε} {P : List ε → k.kind.Record → Prop}
    (h : Lives k apply count start events e) (hstart : P [] start)
    (hevent : ∀ events e event, P events e → count e < Int64.maxValue →
      P (events ++ [event]) (apply e event)) : P events e := by
  induction h with
  | start => exact hstart
  | event h hcount event ih => exact hevent _ _ event ih hcount
  | reload h he hreload ih =>
      rw [eq_of_reloads he hreload]
      exact ih

/-! ### Negotiations -/

namespace ContractNegotiation

/-- The change of state that an event is, if it is one, and its instant. -/
def Event.change? : Event → Option (StateChange NegotiationState × Int64)
  | .change c now => some (c, now)
  | .agreement _ | .correlationId _ => none

/-- The agreement that an event brings, if it brings one. -/
def Event.agreement? : Event → Option ContractAgreement
  | .agreement a => some a
  | .change .. | .correlationId _ => none

/-- The id at the counter-party that an event brings, if it brings one. -/
def Event.correlationId? : Event → Option String
  | .correlationId id => some id
  | .change .. | .agreement _ => none

/-- What a negotiation keeps of its changes of state. -/
def ledger (n : ContractNegotiation) : Ledger NegotiationState :=
  ⟨n.state, n.stateCount, n.stateTimestamp, n.errorDetail⟩

/-- What a negotiation is about, whatever happens to it. -/
def subject (n : ContractNegotiation) : String × Role × String × String × String × Int64 :=
  (n.id, n.role, n.counterPartyId, n.counterPartyAddress, n.protocol, n.createdAt)

section Apply

variable (n : ContractNegotiation) (event : Event)

lemma ledger_apply :
    (n.apply event).ledger = (event.change?.map (n.ledger.record .error)).getD n.ledger := by
  have hcount := Ledger.nextStateCount_code (injective_of_ofCode? NegotiationState.ofCode?_code)
  rcases event with ⟨state | detail, now⟩ | _ | _
  · exact congrArg (Ledger.mk state · now n.errorDetail) (hcount n.state state n.stateCount)
  · exact congrArg (Ledger.mk NegotiationState.error · now (some detail))
      (hcount n.state .error n.stateCount)
  · rfl
  · rfl

lemma agreement_apply : (n.apply event).agreement = event.agreement?.or n.agreement := by
  rcases event with ⟨_ | _, _⟩ | _ | _ <;> rfl

lemma correlationId_apply :
    (n.apply event).correlationId = event.correlationId?.or n.correlationId := by
  rcases event with ⟨_ | _, _⟩ | _ | _ <;> rfl

lemma subject_apply : (n.apply event).subject = n.subject := by
  rcases event with ⟨_ | _, _⟩ | _ | _ <;> rfl

end Apply

/-- Is a negotiation what there is of another one after some events? -/
structure IsAfter (start : ContractNegotiation) (events : List Event) (n : ContractNegotiation) :
    Prop where
  ledger : Ledger.IsAfter .error start.ledger (events.filterMap Event.change?) n.ledger
  agreement : n.agreement = (events.filterMap Event.agreement?).getLast?.or start.agreement
  correlationId :
    n.correlationId = (events.filterMap Event.correlationId?).getLast?.or start.correlationId
  subject : n.subject = start.subject

lemma isAfter_nil (start : ContractNegotiation) : IsAfter start [] start :=
  ⟨Ledger.isAfter_nil _, rfl, rfl, rfl⟩

/-- After one more event a negotiation is what it should be, if its state could be counted on. -/
lemma IsAfter.apply {start n : ContractNegotiation} {events : List Event}
    (h : IsAfter start events n) (hcount : n.stateCount < Int64.maxValue) (event : Event) :
    IsAfter start (events ++ [event]) (n.apply event) where
  ledger := by
    rw [List.filterMap_append, ledger_apply]
    cases hc : event.change? with
    | none => simpa [hc] using h.ledger
    | some c => simpa [hc] using h.ledger.record hcount c
  agreement := by rw [agreement_apply, h.agreement, getLast?_filterMap_concat]
  correlationId := by rw [correlationId_apply, h.correlationId, getLast?_filterMap_concat]
  subject := (n.subject_apply event).trans h.subject

end ContractNegotiation

/-! ### Transfer processes -/

namespace TransferProcess

/-- What a process keeps of its changes of state. -/
def ledger (p : TransferProcess) : Ledger TransferState :=
  ⟨p.state, p.stateCount, p.stateTimestamp, p.errorDetail⟩

/-- What a process is about, whatever happens to it. -/
def subject (p : TransferProcess) : String × Role × DataRequest × Int64 :=
  (p.id, p.role, p.dataRequest, p.createdAt)

lemma ledger_change (p : TransferProcess) (c : StateChange TransferState) (now : Int64) :
    (p.change c now).ledger = p.ledger.record .error (c, now) := by
  have hcount := Ledger.nextStateCount_code (injective_of_ofCode? TransferState.ofCode?_code)
  cases c with
  | enter state =>
      exact congrArg (Ledger.mk state · now p.errorDetail) (hcount p.state state p.stateCount)
  | fail detail =>
      exact congrArg (Ledger.mk TransferState.error · now (some detail))
        (hcount p.state .error p.stateCount)

lemma subject_change (p : TransferProcess) (c : StateChange TransferState) (now : Int64) :
    (p.change c now).subject = p.subject := by
  cases c <;> rfl

/-- Is a process what there is of another one after some changes of its state? -/
structure IsAfter (start : TransferProcess) (changes : List (StateChange TransferState × Int64))
    (p : TransferProcess) : Prop where
  ledger : Ledger.IsAfter .error start.ledger changes p.ledger
  subject : p.subject = start.subject

lemma isAfter_nil (start : TransferProcess) : IsAfter start [] start :=
  ⟨Ledger.isAfter_nil _, rfl⟩

/-- After one more change a process is what it should be, if its state could be counted on. -/
lemma IsAfter.change {start p : TransferProcess}
    {changes : List (StateChange TransferState × Int64)} (h : IsAfter start changes p)
    (hcount : p.stateCount < Int64.maxValue) (c : StateChange TransferState) (now : Int64) :
    IsAfter start (changes ++ [(c, now)]) (p.change c now) where
  ledger := p.ledger_change c now ▸ h.ledger.record hcount (c, now)
  subject := (p.subject_change c now).trans h.subject

end TransferProcess

/-! ### All lives -/

/-- Negotiations and transfer processes are what the events of their lives make of them, whatever
reloads there are between these; and whatever is saved is found again as it is, unless its documents
are nested too deep for the reader of texts. -/
theorem StatefulKind.isAfter_of_lives :
    (∀ (start n : ContractNegotiation) (events : List ContractNegotiation.Event),
      Lives .contractNegotiation ContractNegotiation.apply ContractNegotiation.stateCount start
        events n → ContractNegotiation.IsAfter start events n) ∧
    (∀ (start p : TransferProcess) (changes : List (StateChange TransferState × Int64)),
      Lives .transferProcess (fun (p : TransferProcess) c => p.change c.1 c.2)
        TransferProcess.stateCount start changes p → TransferProcess.IsAfter start changes p) ∧
    ∀ (k : StatefulKind) (s s' : EntityStore k.kind.Record) (e : k.kind.Record) (b b' : Backend),
      b.database.Conforms → s.Saves e b b' → Entity.IsStorable e →
        s'.find (Entity.id e) b' = .ok (some e) := by
  refine ⟨fun start n events h => ?_, fun start p changes h => ?_, fun k s s' e b b' hc hsaved he =>
    EntityStore.find_of_saves hc hsaved he⟩
  · exact h.keeps (P := ContractNegotiation.IsAfter start) (ContractNegotiation.isAfter_nil start)
      fun _ _ event h hcount => h.apply hcount event
  · exact h.keeps (P := TransferProcess.IsAfter start) (TransferProcess.isAfter_nil start)
      fun _ _ c h hcount => h.change hcount c.1 c.2

/-- A negotiation asks again, is saved and read again, and fails: it failed once, and the detail
stays when the counter-party names itself. -/
theorem StatefulKind.isAfter_of_failure :
    let start := ContractNegotiation.new "n" .consumer "p" "http://p" 10
    let asked := start.apply (.change (.enter .requesting) 20)
    let n := (asked.apply (.change (.fail "down") 30)).apply (.correlationId "c")
    let events : List ContractNegotiation.Event :=
      [.change (.enter .requesting) 20, .change (.fail "down") 30, .correlationId "c"]
    Reloads (k := .contractNegotiation) asked asked ∧ asked.stateCount = 2 ∧
      Lives .contractNegotiation ContractNegotiation.apply ContractNegotiation.stateCount start
        events n ∧
      ContractNegotiation.IsAfter start events n ∧ n.stateCount = 1 ∧
        n.errorDetail = some "down" := by
  intro start asked n events
  let s : EntityStore StoreKind.contractNegotiation.Record := .new _ 1000 1
  let b := Backend.founded 0
  have hc : b.database.Conforms := Backend.conforms_founded 0
  have hstorable : Entity.IsStorable (α := StoreKind.contractNegotiation.Record) asked := by
    intro j hj
    cases hj
  obtain ⟨b', hcreate, -⟩ := s.exists_create_of_free asked (Backend.isOpen_founded 0)
    (Backend.table?_founded 0 .contractNegotiation) rfl rfl
  have hreload : Reloads (k := .contractNegotiation) asked asked :=
    ⟨s, s, b, b', hc, .inl hcreate, isAfter_of_lives.2.2 .contractNegotiation s s asked b b' hc
      (.inl hcreate) hstorable⟩
  have hasked : Lives .contractNegotiation ContractNegotiation.apply
      ContractNegotiation.stateCount start [.change (.enter .requesting) 20] asked :=
    (Lives.start.event (by decide) _).reload (fun j hj => (hstorable j hj).isIntegral) hreload
  have hlives : Lives .contractNegotiation ContractNegotiation.apply
      ContractNegotiation.stateCount start events n :=
    (hasked.event (by decide) (.change (.fail "down") 30)).event (by decide) (.correlationId "c")
  exact ⟨hreload, rfl, hlives, isAfter_of_lives.1 start n events hlives, rfl, rfl⟩

end LeasedStore
