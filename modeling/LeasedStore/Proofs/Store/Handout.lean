/-
Work handed out.

Whoever asks for work gets the front of the queue, leased, and leaves the rest of the queue to the
next one who asks: consecutive calls at one instant cut the queue into consecutive pieces.

* `Backend.Leased`: what a holder leaves behind who takes leases on some ids;
* `EntityStore.exists_leased_of_claim`: a claim of entities that nobody holds takes all of them;
* `Backend.Leased.queue_eq`: the front of the queue taken, its rest stands in the queue;
* `EntityStore.HandsOut`: what a call for work comes to, and `exists_handsOut`;
* `WorkCall`, `serve`: calls for work, one after the other;
* `EntityStore.handsOut_in_order`: what is handed out, call by call.
-/
import Mathlib
import LeasedStore.Proofs.Store.Claiming
import LeasedStore.Proofs.Store.Excess
import LeasedStore.Proofs.Store.Queue

namespace LeasedStore

/-! ### Leases taken -/

namespace Backend

variable {k : StatefulKind} {s : EntityStore k.kind.Record} {holder id : String}
  {ids : List String} {b b' b'' : Backend} {filter : List Criterion}

/-- What a holder leaves behind who takes leases on some ids for as long as a store lends them. -/
structure Leased (b b' : Backend) (s : EntityStore k.kind.Record) (holder : String)
    (ids : List String) : Prop extends b.KeepsEntities b' where
  /-- The ids are leased from now on. -/
  taken : ∀ id ∈ ids, b'.database.lease? (k.kind.resource id) =
    some (s.leases.request id holder b.clock.now s.leaseDuration)
  /-- All other leases are what they were. -/
  elsewhere : ∀ r, (∀ id ∈ ids, k.kind.resource id ≠ r) →
    b'.database.lease? r = b.database.lease? r

namespace Leased

lemma nil (h : ∃ lt, b.database.leases = some lt) : Leased b b s holder [] where
  toKeepsEntities := .refl h
  taken := nofun
  elsewhere _ _ := rfl

/-- One lease was taken. -/
lemma of_acquireIn {l : Lease}
    (h : (s.leases.acquireIn id holder s.leaseDuration).runOn b = (.ok l, b')) :
    Leased b b' s holder [id] where
  toKeepsEntities := LeaseManager.keepsEntities_of_acquireIn h
  taken x hx := by
    cases List.mem_singleton.mp hx
    obtain ⟨-, -, -, -, rfl, -⟩ := LeaseManager.acquireIn_eq_ok h
    rw [LeaseManager.lease?_of_acquireIn h]
    exact if_pos rfl
  elsewhere r hr := by
    rw [LeaseManager.lease?_of_acquireIn h]
    exact if_neg (hr id (List.mem_singleton_self id))

/-- One lease was taken, and then others. -/
lemma cons (h : Leased b b' s holder [id]) (h' : Leased b' b'' s holder ids) (hid : id ∉ ids) :
    Leased b b'' s holder (id :: ids) where
  toKeepsEntities := h.toKeepsEntities.trans h'.toKeepsEntities
  taken x hx := by
    rcases List.mem_cons.mp hx with rfl | hx
    · have hother : ∀ y ∈ ids, k.kind.resource y ≠ k.kind.resource x := by
        intro y hy heq
        exact hid ((Resource.mk.inj heq).2 ▸ hy)
      rw [h'.elsewhere _ hother]
      exact h.taken x (List.mem_singleton_self x)
    · rw [← h.clock]
      exact h'.taken x hx
  elsewhere r hr := by
    obtain ⟨hid, hids⟩ := List.forall_mem_cons.mp hr
    rw [h'.elsewhere r hids, h.elsewhere r fun x hx => List.mem_singleton.mp hx ▸ hid]

/-- Whoever looks for a lease that was taken finds it. -/
lemma active?_of_mem (h : Leased b b' s holder ids) (hid : id ∈ ids) :
    b'.active? (k.kind.resource id) =
      some (s.leases.request id holder b.clock.now s.leaseDuration) := by
  refine active?_eq_some_iff.mpr ⟨h.taken id hid, ?_⟩
  rw [h.clock]
  exact LeaseManager.isActive_request s.leases id holder b.clock.now s.leaseDuration

lemma active?_of_not_mem (h : Leased b b' s holder ids) (hid : id ∉ ids) :
    b'.active? (k.kind.resource id) = b.active? (k.kind.resource id) := by
  refine active?_congr (h.elsewhere _ fun x hx heq => ?_) h.clock
  exact hid ((Resource.mk.inj heq).2 ▸ hx)

end Leased

end Backend

/-! ### Claims of what nobody holds -/

namespace EntityStore

variable {k : StatefulKind} {s : EntityStore k.kind.Record} {holder : String}
  {filter : List Criterion} {b : Backend} {e : k.kind.Record}

/-- An entity that nobody holds is leased and handed out. -/
lemma exists_leased_of_claimOne (s : EntityStore k.kind.Record) (holder : String)
    (hb : b.IsReady k.kind) (hf : k.kind.schema.mapping.Translates filter)
    (hfits : k.kind.schema.mapping.FitsLookUp filter) (hfree : b.isFree k e = true)
    (he : b.current? k filter (Entity.id e) = some e) :
    ∃ b', (s.claimOne holder filter (Entity.id e)).runOn b = (.ok (some e), b') ∧
      b.Leased b' s holder [Entity.id e] := by
  obtain ⟨lt, hlt⟩ := hb.leases
  have hbarred : b.isBarred holder (k.kind.resource (Entity.id e)) = false := by
    rw [Backend.isBarred, Option.isNone_iff_eq_none.mp hfree]
    rfl
  obtain ⟨l, b', hacquire⟩ :=
    LeaseManager.exists_acquireIn_of_free (m := s.leases) hlt hbarred s.leases.duration
  have hsame := s.ignoresLeases_findMatching (Entity.id e) filter b b'
    (LeaseManager.keepsEntities_of_acquireIn hacquire)
  have hfound : s.findMatching (Entity.id e) filter b = .ok (some e) := by
    rw [findMatching_eq hb hf hfits fun r hr => Backend.decodes_of_current? he hr, he]
  refine ⟨b', ?_, .of_acquireIn hacquire⟩
  rw [claimOne, Action.runOn_bind, Action.runOn_attempt,
    s.leases.runOn_acquire_of_open hb.isOpen, hacquire]
  dsimp only
  rw [Action.runOn_bind, Action.runOn_read, hsame, hfound]
  rfl

/-- Entities that nobody holds are leased and handed out, all of them. -/
theorem exists_leased_of_claim (s : EntityStore k.kind.Record) (holder : String)
    (es : List k.kind.Record) (hb : b.IsReady k.kind)
    (hf : k.kind.schema.mapping.Translates filter)
    (hfits : k.kind.schema.mapping.FitsLookUp filter) (hes : (es.map Entity.id).Nodup)
    (hfree : ∀ e ∈ es, b.isFree k e = true)
    (hcurrent : ∀ e ∈ es, b.current? k filter (Entity.id e) = some e) :
    ∃ b', (s.claim holder filter (es.map Entity.id)).runOn b = (.ok es, b') ∧
      b.Leased b' s holder (es.map Entity.id) := by
  -- on the entities; leasing one leaves the others free and as they are stored, as no two share an
  -- id
  induction es generalizing b with
  | nil => exact ⟨b, rfl, .nil hb.leases⟩
  | cons e rest ih =>
      obtain ⟨hid, hrest⟩ := List.nodup_cons.mp hes
      obtain ⟨hfreeOne, hfreeRest⟩ := List.forall_mem_cons.mp hfree
      obtain ⟨hcurrentOne, hcurrentRest⟩ := List.forall_mem_cons.mp hcurrent
      obtain ⟨b₁, hone, hleased⟩ :=
        exists_leased_of_claimOne s holder hb hf hfits hfreeOne hcurrentOne
      have hfree₁ : ∀ x ∈ rest, b₁.isFree k x = true := by
        intro x hx
        have hne : Entity.id x ∉ [Entity.id e] := fun hmem =>
          hid (List.mem_singleton.mp hmem ▸ List.mem_map_of_mem hx)
        rw [Backend.isFree, hleased.active?_of_not_mem hne]
        exact hfreeRest x hx
      have hcurrent₁ : ∀ x ∈ rest, b₁.current? k filter (Entity.id x) = some x := by
        intro x hx
        rw [hleased.toKeepsEntities.current?]
        exact hcurrentRest x hx
      obtain ⟨b₂, hmore, hleased'⟩ :=
        ih (hb.ofKeeps hleased.toKeepsEntities) hrest hfree₁ hcurrent₁
      refine ⟨b₂, ?_, hleased.cons hleased' hid⟩
      rw [List.map_cons, claim, Action.runOn_bind_of_ok hone, Action.runOn_bind_pure, hmore]
      rfl

end EntityStore

/-! ### What is left in the queue -/

/-- Members of a list that are not among the first so many, which are told apart by something, are
those behind them. -/
lemma filter_not_mem_take {α β : Type} [DecidableEq β] {xs : List α} {f : α → β}
    (h : (xs.map f).Nodup) (n : Nat) :
    xs.filter (fun x => f x ∉ (xs.take n).map f) = xs.drop n := by
  have hapart : ∀ x ∈ xs.drop n, f x ∉ (xs.take n).map f := by
    rw [← List.take_append_drop n xs, List.map_append] at h
    intro x hx hmem
    exact List.disjoint_of_nodup_append h hmem (List.mem_map_of_mem hx)
  have hfront : (xs.take n).filter (fun x => f x ∉ (xs.take n).map f) = [] := by
    refine List.filter_eq_nil_iff.mpr fun x hx hnot => ?_
    exact of_decide_eq_true hnot (List.mem_map_of_mem hx)
  have hrest : (xs.drop n).filter (fun x => f x ∉ (xs.take n).map f) = xs.drop n :=
    List.filter_eq_self.mpr fun x hx => decide_eq_true (hapart x hx)
  calc xs.filter (fun x => f x ∉ (xs.take n).map f)
      _ = (xs.take n ++ xs.drop n).filter (fun x => f x ∉ (xs.take n).map f) := by
          rw [List.take_append_drop]
      _ = xs.drop n := by rw [List.filter_append, hfront, hrest, List.nil_append]

namespace Backend

variable {k : StatefulKind} {s : EntityStore k.kind.Record} {holder : String}
  {filter : List Criterion} {b b' : Backend}

lemma KeepsEntities.stored (h : b.KeepsEntities b') : b'.stored k filter = b.stored k filter := by
  rw [Backend.stored, Backend.stored, h.table?]

lemma Reads.ofKeeps (h : b.Reads k filter) (hk : b.KeepsEntities b') : b'.Reads k filter := by
  intro t ht
  rw [hk.table?] at ht
  exact h t ht

/-- Nobody holds what nobody held, unless it was leased. -/
lemma Leased.isFree {ids : List String} (h : b.Leased b' s holder ids) (e : k.kind.Record) :
    b'.isFree k e = (b.isFree k e && decide (Entity.id e ∉ ids)) := by
  by_cases hid : Entity.id e ∈ ids
  · rw [Backend.isFree, h.active?_of_mem hid]
    simp [hid]
  · rw [Backend.isFree, h.active?_of_not_mem hid]
    simp [hid, Backend.isFree]

/-- The front of the queue taken, its rest stands in the queue. -/
theorem Leased.queue_eq {n : Nat} (hb : b.IsReady k.kind)
    (h : b.Leased b' s holder (((b.queue k filter).take n).map Entity.id)) :
    b'.queue k filter = (b.queue k filter).drop n := by
  have hlevel : ∀ e ∈ (b.stored k filter).filter (b.isFree k),
      ∀ e' ∈ (b.stored k filter).filter (b.isFree k), k.workOrder e e' = .eq → e = e' := by
    intro e he e' he' hlevel
    exact List.inj_on_of_nodup_map (nodup_stored hb) (List.mem_filter.mp he).1
      (List.mem_filter.mp he').1 (StatefulKind.id_eq_of_workOrder hlevel)
  have hfilter : (b'.stored k filter).filter (b'.isFree k) =
      ((b.stored k filter).filter (b.isFree k)).filter
        fun e => Entity.id e ∉ ((b.queue k filter).take n).map Entity.id := by
    rw [h.toKeepsEntities.stored, List.filter_filter]
    refine List.filter_congr fun e _ => ?_
    rw [h.isFree, Bool.and_comm]
  calc b'.queue k filter
      _ = (b.queue k filter).filter
            fun e => Entity.id e ∉ ((b.queue k filter).take n).map Entity.id := by
          rw [queue, hfilter]
          exact (filter_mergeSort_of_level hlevel _).symm
      _ = (b.queue k filter).drop n := filter_not_mem_take (nodup_queue hb) n

end Backend

/-! ### Calls for work -/

namespace EntityStore

variable {k : StatefulKind} {s : EntityStore k.kind.Record} {holder : String}
  {filter : List Criterion} {b b' : Backend} {es : List k.kind.Record} {max : UInt32}

/-- What it comes to that a holder asks for work. -/
structure HandsOut (s : EntityStore k.kind.Record) (holder : String) (max : UInt32)
    (filter : List Criterion) (b : Backend) (es : List k.kind.Record) (b' : Backend) : Prop
    extends b.KeepsEntities b' where
  /-- He gets the front of the queue, -/
  front : es = (b.queue k filter).take max.toNat
  /-- which are the candidates that he would have seen before. -/
  candidates : s.unleasedCandidates max filter b = .ok es
  /-- Its rest is left, -/
  rest : b'.queue k filter = (b.queue k filter).drop max.toNat
  /-- which is nothing if he gets less than he asked for. -/
  exhausted : es.length < max.toNat → b'.queue k filter = []
  /-- A lease of his is found on whatever he got, taken now, -/
  find : ∀ e ∈ es, s.leases.find (Entity.id e) b' = .ok (some ⟨k.kind.schema.kind, Entity.id e,
    holder, b.clock.now, grantedDuration b.clock.now s.leaseDuration⟩)
  /-- and all other leases are what they were. -/
  elsewhere : ∀ r, (∀ e ∈ es, k.kind.resource (Entity.id e) ≠ r) →
    b'.database.lease? r = b.database.lease? r

/-- Whoever asks for work gets the front of the queue. -/
theorem exists_handsOut (s : EntityStore k.kind.Record) (holder : String) (max : UInt32)
    (hb : b.IsReady k.kind) (hf : k.kind.schema.mapping.Translates filter)
    (hfits : k.FitsOffer filter) (hreads : b.Reads k filter) :
    ∃ b', (s.nextNotLeased holder max filter).runOn b =
        (.ok ((b.queue k filter).take max.toNat), b') ∧
      s.HandsOut holder max filter b ((b.queue k filter).take max.toNat) b' := by
  have hcandidates := unleasedCandidates_eq s max hb hf hfits hreads
  have hmem : ∀ e ∈ (b.queue k filter).take max.toNat, e ∈ b.queue k filter := fun e he =>
    List.mem_of_mem_take he
  have hfree : ∀ e ∈ (b.queue k filter).take max.toNat, b.isFree k e = true := fun e he =>
    (List.mem_filter.mp (List.mem_mergeSort.mp (hmem e he))).2
  have hcurrent : ∀ e ∈ (b.queue k filter).take max.toNat,
      b.current? k filter (Entity.id e) = some e := fun e he =>
    ((Backend.mem_queue hb s).mp (hmem e he)).1
  have hids : (((b.queue k filter).take max.toNat).map Entity.id).Nodup :=
    (Backend.nodup_queue hb).sublist ((List.take_sublist ..).map _)
  -- all that is offered is free and stored still, so that none of it is passed over
  obtain ⟨b', hclaim, hleased⟩ :=
    exists_leased_of_claim s holder _ hb hf (hfits.fitsLookUp hf) hids hfree hcurrent
  have hrest := hleased.queue_eq hb
  refine ⟨b', ?_, hleased.toKeepsEntities, rfl, hcandidates, hrest, ?_, ?_, ?_⟩
  · have hread : (Action.read (s.unleasedCandidates max filter)).runOn b =
        (.ok ((b.queue k filter).take max.toNat), b) := by
      rw [Action.runOn_read, hcandidates]
    rw [nextNotLeased, Action.runOn_bind_of_ok hread]
    cases k <;> exact hclaim
  · intro hlt
    rw [List.length_take] at hlt
    rw [hrest]
    exact List.drop_eq_nil_of_le (by omega)
  · intro e he
    obtain ⟨lt, hlt⟩ := hleased.leases
    have hopen : b'.isOpen = true := (congrArg Prod.fst hleased.setting).trans hb.isOpen
    have hactive := hleased.active?_of_mem (List.mem_map_of_mem he)
    rw [LeaseManager.find_of_open hopen hlt]
    exact congrArg Except.ok hactive
  · intro r hr
    refine hleased.elsewhere r fun id hid => ?_
    obtain ⟨e, he, rfl⟩ := List.mem_map.mp hid
    exact hr e he

end EntityStore

/-! ### One call after the other -/

/-- A call for work: in which store, for whom, and for how much of it at most. -/
structure WorkCall (k : StatefulKind) where
  store : EntityStore k.kind.Record
  holder : String
  max : UInt32

/-- What is handed out call by call, and the backend afterwards. -/
def WorkCall.serve {k : StatefulKind} (filter : List Criterion) :
    List (WorkCall k) → Backend → List (Except StoreError (List k.kind.Record)) × Backend
  | [], b => ([], b)
  | c :: rest, b =>
    let (answer, b) := (c.store.nextNotLeased c.holder c.max filter).runOn b
    let (answers, b) := serve filter rest b
    (answer :: answers, b)

namespace WorkCall

variable {k : StatefulKind} {filter : List Criterion} {b b' : Backend}

/-- How much work is asked for, call by call. -/
def amounts (calls : List (WorkCall k)) : List Nat := calls.map fun c => c.max.toNat

/-- Calls for work cut the queue into consecutive pieces. -/
theorem exists_serve (calls : List (WorkCall k)) (hb : b.IsReady k.kind)
    (hf : k.kind.schema.mapping.Translates filter) (hfits : k.FitsOffer filter)
    (hreads : b.Reads k filter) :
    ∃ b', serve filter calls b =
        (((amounts calls).splitLengths (b.queue k filter)).map .ok, b') ∧
      b.KeepsEntities b' ∧
      b'.queue k filter = (b.queue k filter).drop (amounts calls).sum := by
  induction calls generalizing b with
  | nil => exact ⟨b, rfl, .refl hb.leases, rfl⟩
  | cons c rest ih =>
      obtain ⟨b₁, hone, hhands⟩ := c.store.exists_handsOut c.holder c.max hb hf hfits hreads
      have hkeeps := hhands.toKeepsEntities
      obtain ⟨b₂, hmore, hkeeps', hqueue⟩ :=
        ih (hb.ofKeeps hkeeps) (hreads.ofKeeps hkeeps)
      refine ⟨b₂, ?_, hkeeps.trans hkeeps', ?_⟩
      · rw [hhands.rest] at hmore
        rw [serve, hone]
        dsimp only
        rw [hmore]
        simp [amounts]
      · rw [hqueue, hhands.rest, List.drop_drop]
        simp [amounts]

end WorkCall

/-- Pieces that are cut off one after the other make up the front of a list. -/
lemma flatten_splitLengths_eq_take {α : Type} (sizes : List Nat) (xs : List α) :
    (sizes.splitLengths xs).flatten = xs.take sizes.sum := by
  induction sizes generalizing xs with
  | nil => simp
  | cons n rest ih =>
      rw [List.splitLengths_cons, List.flatten_cons, ih, List.sum_cons, List.take_add]

namespace EntityStore

variable {k : StatefulKind} {filter : List Criterion} {b : Backend}

/-- Work is handed out from the front of the queue: whoever asks gets the first entities that meet
the filter and that nobody holds, which are his candidates, and has leases on them from then on;
nothing else changes.  Consecutive calls cut the queue into consecutive pieces.  The query for
candidates must be within the limits of the database. -/
theorem handsOut_in_order (hb : b.IsReady k.kind)
    (hf : k.kind.schema.mapping.Translates filter) (hfits : k.FitsOffer filter)
    (hreads : b.Reads k filter) :
    b.IsQueue k filter (b.queue k filter) ∧
      (∀ (s : EntityStore k.kind.Record) (holder : String) (max : UInt32),
        ∃ es b', (s.nextNotLeased holder max filter).runOn b = (.ok es, b') ∧
          s.HandsOut holder max filter b es b') ∧
      ∀ calls : List (WorkCall k), ∃ pieces b',
        WorkCall.serve filter calls b = (pieces.map .ok, b') ∧
          pieces = (WorkCall.amounts calls).splitLengths (b.queue k filter) ∧
          pieces.flatten = (b.queue k filter).take (WorkCall.amounts calls).sum ∧
          pieces.Pairwise (fun es es' => ∀ e ∈ es, ∀ e' ∈ es', k.workOrder e e' = .lt) ∧
          b.KeepsEntities b' ∧
          b'.queue k filter = (b.queue k filter).drop (WorkCall.amounts calls).sum := by
  refine ⟨Backend.isQueue_queue hb, fun s holder max => ?_, fun calls => ?_⟩
  · obtain ⟨b', hrun, hhands⟩ := s.exists_handsOut holder max hb hf hfits hreads
    exact ⟨_, b', hrun, hhands⟩
  · obtain ⟨b', hserve, hkeeps, hqueue⟩ := WorkCall.exists_serve calls hb hf hfits hreads
    have hflatten := flatten_splitLengths_eq_take (WorkCall.amounts calls) (b.queue k filter)
    have hascends : ((WorkCall.amounts calls).splitLengths (b.queue k filter)).flatten.Pairwise
        fun e e' => k.workOrder e e' = .lt := by
      rw [hflatten]
      exact (Backend.pairwise_queue hb).sublist (List.take_sublist ..)
    exact ⟨_, b', hserve, rfl, hflatten, (List.pairwise_flatten.mp hascends).2, hkeeps, hqueue⟩

/-- Two holders ask in turn for two of four entities that nobody holds, two of which entered their
state at the same instant; somebody else's lease on a fifth one lasts until now, that on another one
is over, and a row in another state cannot be read. -/
theorem handsOut_to_two_holders :
    let k : StatefulKind := .contractNegotiation
    let s : EntityStore k.kind.Record := .new _ 1000 10
    let negotiation (id : String) (since : Int64) : ContractNegotiation :=
      { ContractNegotiation.new id .consumer "p" "a" 0 with
        state := .requested, stateTimestamp := since }
    let broken : Row := ⟨("state", .int 7) :: (Entity.row (negotiation "broken" 0)).cells⟩
    let t : Table := ⟨k.kind.schema.tableDef, broken :: [("late", 5), ("b", 3), ("held", 1),
      ("a", 3), ("over", 2)].map fun p => Entity.row (negotiation p.1 p.2), by decide⟩
    let lease (id : String) (duration : Int64) : Lease :=
      ⟨k.kind.schema.kind, id, "somebody else", 0, duration⟩
    let lt : LeaseTable := ⟨[lease "held" 60, lease "over" 59], by decide⟩
    let b : Backend := ⟨⟨some lt, [t]⟩, true, ⟨60⟩, .empty⟩
    let filter : List Criterion := [⟨"state", .equal, .int 200⟩]
    let calls : List (WorkCall k) := [⟨s, "we", 2⟩, ⟨s, "they", 2⟩, ⟨s, "we", 2⟩]
    b.IsReady k.kind ∧ k.kind.schema.mapping.Translates filter ∧ k.FitsOffer filter ∧
      b.Reads k filter ∧ ∃ (pieces : List (List k.kind.Record)) (b' : Backend),
        WorkCall.serve filter calls b = (pieces.map .ok, b') ∧
        pieces.map (List.map Entity.id) = [["over", "a"], ["b", "late"], []] := by
  intro k s negotiation broken t lease lt b filter calls
  have hstored : t.IsStored := by
    change ∀ r ∈ t.rows, ∀ c ∈ t.definition.columns, c.storage.store (r.cell c.name) = r.cell c.name
    decide +kernel
  have hb : b.IsReady k.kind := ⟨rfl, ⟨lt, rfl⟩, t, rfl, rfl, hstored⟩
  have hf : k.kind.schema.mapping.Translates filter := ⟨_, _, rfl⟩
  have hof (id : String) (since : Int64) :
      ContractNegotiation.ofRow (Entity.row (negotiation id since)) = .ok (negotiation id since) :=
    DocumentedEntity.ofRow_row (negotiation id since)
      (by simp [DocumentedEntity.documents, negotiation, ContractNegotiation.new])
  have hreads : b.Reads k filter := by
    intro t' ht' r hr hholds
    cases ht'
    rcases List.mem_cons.mp hr with rfl | hr
    · have hstate := Criterion.holdsOn_iff.mpr (hholds _ (List.mem_singleton_self _))
      exact absurd hstate (by decide +kernel)
    · obtain ⟨p, -, rfl⟩ := List.mem_map.mp hr
      exact ⟨_, hof p.1 p.2⟩
  have hfits : k.FitsOffer filter := StatefulKind.fitsOffer_of_isModest hf
    (TableMapping.isModest_of_no_pattern (by decide) (by decide) (by decide))
  obtain ⟨-, -, hserve⟩ := handsOut_in_order hb hf hfits hreads
  obtain ⟨pieces, b', hrun, hpieces, -⟩ := hserve calls
  refine ⟨hb, hf, hfits, hreads, pieces, b', hrun, ?_⟩
  rw [hpieces]
  dsimp only [calls, filter, b, lt, lease, t, broken, negotiation, s, k]
  cbv

/-- With so many criteria that there is no room for the condition about leases, the entity that
meets them all and that nobody holds is the queue, but it is neither seen as a candidate nor handed
out. -/
theorem nextNotLeased_of_criteria_without_room :
    let k : StatefulKind := .contractNegotiation
    let s : EntityStore k.kind.Record := .new _ 1000 10
    let n : k.kind.Record := ContractNegotiation.new "n" .consumer "p" "a" 0
    let t : Table := ⟨k.kind.schema.tableDef, [Entity.row n], by decide⟩
    let b : Backend := ⟨⟨some .empty, [t]⟩, true, ⟨60⟩, .empty⟩
    let filter := List.replicate 999 (Criterion.equals "id" (.text "n"))
    b.IsReady k.kind ∧ k.kind.schema.mapping.Translates filter ∧ b.Reads k filter ∧
      b.queue k filter = [n] ∧
      s.unleasedCandidates 1 filter b = .error (.database .tooDeep) ∧
      (s.nextNotLeased "we" 1 filter).runOn b = (.error (.database .tooDeep), b) := by
  intro k s n t b filter
  have hstored : t.IsStored := by
    intro r hr
    cases List.mem_singleton.mp hr
    exact StoreKind.stores_row .contractNegotiation n
  have hb : b.IsReady k.kind := ⟨rfl, ⟨_, rfl⟩, t, rfl, rfl, hstored⟩
  have hf : k.kind.schema.mapping.Translates filter :=
    TableMapping.translates_replicate .contractNegotiation "n" 999
  have hof : Entity.ofRow (Entity.row n) = .ok n :=
    DocumentedEntity.ofRow_row n fun j hj => by cases hj
  have hreads : b.Reads k filter := by
    intro t' ht' r hr _
    cases ht'
    cases List.mem_singleton.mp hr
    exact ⟨n, hof⟩
  have hqueue : b.queue k filter = [n] := by
    have hmeets : (Entity.row n).meets k.kind.schema.mapping filter = true := by
      refine List.all_eq_true.mpr fun criterion hcriterion => ?_
      cases List.eq_of_mem_replicate hcriterion
      decide +kernel
    have hrows : t.rows = [Entity.row n] := rfl
    have hfree : b.isFree k n = true := rfl
    rw [Backend.queue, Backend.stored_of_table? (t := t) rfl, hrows, List.filter_singleton, hmeets,
      cond_true, List.filterMap_cons_some (StatefulKind.read?_eq_some.mpr hof), List.filterMap_nil,
      List.filter_singleton, hfree, cond_true, List.mergeSort_singleton]
  have hcandidates : s.unleasedCandidates 1 filter b = .error (.database .tooDeep) := by
    obtain ⟨conditions, params, hrun⟩ := hf
    exact unleasedCandidates_of_tooMany (α := ContractNegotiation) rfl
      (Criterion.areTooMany_replicate "id" "n" (by decide) (by decide)) (by decide)
      (StatefulKind.of_unleasedBinding s 1 60 hrun)
  have hread : (Action.read (s.unleasedCandidates 1 filter)).runOn b =
      (.error (.database .tooDeep), b) := by
    rw [Action.runOn_read, hcandidates]
  exact ⟨hb, hf, hreads, hqueue, hcandidates, Action.runOn_bind_of_error hread _⟩

end EntityStore

end LeasedStore
