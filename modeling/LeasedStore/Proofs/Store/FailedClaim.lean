/-
What a claim leaves behind that fails.

Leases are taken candidate by candidate, each on a connection of its own, and an error is handed on
at once: no lease is given up that was taken until then, that on the candidate at which the claim
failed included, although its holder gets nothing.  Candidates that were just selected never make a
claim fail, so only a claim of candidates from elsewhere, or under another filter, leaves leases
behind.

* `EntityStore.IsStuck`: a claim fails at a candidate;
* `EntityStore.isStuck_of_claim`: a claim that fails does so, unless it changed nothing;
* `EntityStore.eq_of_nextNotLeased_error`: selecting and claiming at once changes nothing if it
  fails;
* `ControlPlane.isStuck_of_failed_step`: both as steps.
-/
import LeasedStore.Proofs.Store.Candidates
import LeasedStore.Proofs.Store.Claiming

namespace LeasedStore

namespace EntityStore

variable {k : StatefulKind} {s : EntityStore k.kind.Record} {holder id : String}
  {filter : List Criterion} {ids done : List String} {e : StoreError} {b b' : Backend}

/-! ### Claims -/

/-- Does a claim fail at a candidate, after it went through others? -/
structure IsStuck (s : EntityStore k.kind.Record) (holder : String) (filter : List Criterion)
    (b : Backend) (e : StoreError) (b' : Backend) (done : List String) (id : String) : Prop where
  /-- The candidates before it can be read again. -/
  isRead : ∀ x ∈ done, ∃ found, s.reread holder filter b x = .ok found
  /-- Nobody else has the lease of the candidate. -/
  isFree : b.isBarred holder (k.kind.resource id) = false
  /-- Its row cannot be read again. -/
  unread : s.findMatching id filter b = .error e
  /-- The leases on the candidates before it were given up as far as the holder gets nothing, and
  its own was not. -/
  took : b.Took b' k holder (s.isLeft holder filter b) (done ++ [id])

lemma IsStuck.isHeld (h : s.IsStuck holder filter b e b' done id) :
    b'.IsHeld holder (k.kind.resource id) := by
  refine (h.took.held id (List.mem_append_right _ (List.mem_singleton_self id))).mpr ?_
  rw [isLeft, reread, h.isFree, if_neg Bool.false_ne_true, h.unread]

/-- Nobody is told an error who is barred from a candidate. -/
lemma reread_eq_error (h : s.reread holder filter b id = .error e) :
    b.isBarred holder (k.kind.resource id) = false ∧ s.findMatching id filter b = .error e := by
  rw [reread] at h
  split at h
  · cases h
  · next hfree => exact ⟨Bool.eq_false_iff.mpr hfree, h⟩

/-- Among candidates that cannot all be read again there is a first that cannot, and the claim goes
through those up to it. -/
lemma exists_visited_of_mapM_error (h : ids.mapM (s.reread holder filter b) = .error e) :
    ∃ done id rest, ids = done ++ id :: rest ∧
      (∀ x ∈ done, ∃ found, s.reread holder filter b x = .ok found) ∧
      s.reread holder filter b id = .error e ∧
      s.visited holder filter b ids = done ++ [id] := by
  -- on the ids; the first one that cannot be read again is the last one visited
  induction ids with
  | nil => cases h
  | cons id rest ih =>
      rw [List.mapM_cons] at h
      cases hread : s.reread holder filter b id with
      | error e' =>
          rw [hread] at h
          cases h
          exact ⟨[], id, rest, rfl, nofun, hread, by rw [visited, hread]; rfl⟩
      | ok found =>
          rw [hread] at h
          cases hrest : rest.mapM (s.reread holder filter b) with
          | ok founds =>
              rw [hrest] at h
              cases h
          | error e' =>
              rw [hrest] at h
              cases h
              obtain ⟨done, x, more, rfl, hdone, hx, hvisited⟩ := ih hrest
              refine ⟨id :: done, x, more, rfl, ?_, hx, by rw [visited, hread, hvisited]; rfl⟩
              exact List.forall_mem_cons.mpr ⟨⟨found, hread⟩, hdone⟩

/-- Without a connection or a table of leases a claim fails at once. -/
lemma eq_of_claim_of_unable (hb : b.isOpen = false ∨ b.database.leases = none)
    (h : (s.claim holder filter ids).runOn b = (.error e, b')) : b' = b := by
  cases ids with
  | nil => cases h
  | cons id rest =>
      obtain ⟨err, hconflict, hacquire⟩ : ∃ err : StoreError, err.isLeaseConflict = false ∧
          (s.leases.acquire id holder).runOn b = (.error err, b) := by
        cases ho : b.isOpen with
        | false => exact ⟨_, rfl, Action.runOn_connect_bind_of_closed ho _⟩
        | true =>
            have hl := hb.resolve_left (by simp [ho])
            exact ⟨_, rfl, (s.leases.runOn_acquire_of_open ho id holder).trans
              (LeaseManager.runOn_acquireIn_of_none hl)⟩
      have hone : (s.claimOne holder filter id).runOn b = (.error err, b) := by
        rw [claimOne, Action.runOn_bind, Action.runOn_attempt, hacquire]
        dsimp only
        rw [if_neg (by rw [hconflict]; exact Bool.false_ne_true)]
        rfl
      rw [claim, Action.runOn_bind_of_error hone] at h
      cases h
      rfl

/-- A claim that fails does so at a candidate, unless there is no connection or no table of leases;
then it changes nothing. -/
theorem isStuck_of_claim (h : (s.claim holder filter ids).runOn b = (.error e, b')) :
    (b' = b ∧ (b.isOpen = false ∨ b.database.leases = none)) ∨
      ∃ done id rest, ids = done ++ id :: rest ∧ s.IsStuck holder filter b e b' done id := by
  by_cases hb : b.isOpen = false ∨ b.database.leases = none
  · exact .inl ⟨eq_of_claim_of_unable hb h, hb⟩
  · obtain ⟨ho, hl⟩ := not_or.mp hb
    obtain ⟨lt, hlt⟩ := Option.ne_none_iff_exists'.mp hl
    obtain ⟨b₁, hrun, htook⟩ :=
      exists_took_of_claim s holder filter ids (eq_true_of_ne_false ho) hlt
    rw [hrun] at h
    obtain ⟨hmap, rfl⟩ := Prod.mk.inj h
    obtain ⟨done, id, rest, hids, hdone, hid, hvisited⟩ :=
      exists_visited_of_mapM_error (Except.map_eq_error.mp hmap)
    obtain ⟨hfree, hunread⟩ := reread_eq_error hid
    exact .inr ⟨done, id, rest, hids, hdone, hfree, hunread, hvisited ▸ htook⟩

/-! ### Candidates that were just selected -/

/-- Candidates are selected on a connection. -/
lemma isOpen_of_candidates {α : Type} [StatefulEntity α] {s : EntityStore α} {max : UInt32}
    {es : List α} {x : α} (h : s.unleasedCandidates max filter b = .ok es) (hx : x ∈ es) :
    b.isOpen = true := by
  rw [unleasedCandidates] at h
  split at h
  · cases h
    cases hx
  · obtain ⟨now, -, h⟩ := Reading.bind_eq_ok.mp h
    obtain ⟨query, -, h⟩ := Reading.bind_eq_ok.mp h
    obtain ⟨_, hconnect, -⟩ := Reading.bind_eq_ok.mp h
    cases ho : b.isOpen with
    | true => rfl
    | false =>
        rw [Reading.connect_of_closed ho] at hconnect
        cases hconnect

/-- Candidates are selected from tables that are there. -/
lemma isReady_of_candidates {max : UInt32} {es : List k.kind.Record} {x : k.kind.Record}
    (hb : ∀ t, b.database.table? k.kind.schema.mapping.table = some t →
      t.definition = k.kind.schema.tableDef ∧ t.IsStored)
    (h : s.unleasedCandidates max filter b = .ok es) (hx : x ∈ es) : b.IsReady k.kind := by
  have ho : b.isOpen = true := by cases k <;> exact isOpen_of_candidates h hx
  obtain ⟨query, t, leases, r, -, ht, hleases, -⟩ : ∃ query t leases r,
      Select.Bound.of (s.unleasedBinding .sqlite max filter b.clock.now) = .ok query ∧
      b.database.table? k.kind.schema.mapping.table = some t ∧
      b.database.leaseTable = .ok leases ∧ r ∈ query.candidates t := by
    cases k <;>
    · obtain ⟨query, t, leases, r, hq, -, ht, hl, hr, -⟩ := exists_match_of_candidates h hx
      exact ⟨query, t, leases, r, hq, ht, hl, hr⟩
  obtain ⟨hd, hstored⟩ := hb t ht
  refine ⟨ho, ?_, t, ht, hd, hstored⟩
  cases hl : b.database.leases with
  | some lt => exact ⟨lt, rfl⟩
  | none =>
      rw [Database.leaseTable_of_none hl] at hleases
      cases hleases

/-- Candidates that were just selected do not make a claim fail. -/
lemma exists_claim_of_candidates {max : UInt32} {es : List k.kind.Record} (holder : String)
    (hb : ∀ t, b.database.table? k.kind.schema.mapping.table = some t →
      t.definition = k.kind.schema.tableDef ∧ t.IsStored)
    (h : s.unleasedCandidates max filter b = .ok es) :
    ∃ found b', (s.claim holder filter (es.map Entity.id)).runOn b = (.ok found, b') := by
  cases es with
  | nil => exact ⟨_, _, rfl⟩
  | cons x rest =>
      have hready := isReady_of_candidates hb h (List.mem_cons_self ..)
      have hcurrent : ∀ y ∈ x :: rest, k.kind.schema.mapping.Translates filter ∧
          b.current? k filter (Entity.id y) = some y :=
        fun y hy => current?_of_unleasedCandidates hready h hy
      have hf := (hcurrent x (List.mem_cons_self ..)).1
      obtain ⟨b', hrun, -⟩ := exists_runOn_claim s holder hready hf
        (fitsLookUp_of_unleasedCandidates h (List.mem_cons_self ..))
        (List.forall_mem_map.mpr fun y hy row hrow =>
          Backend.decodes_of_current? (hcurrent y hy).2 hrow)
      exact ⟨_, b', hrun⟩

/-- Selecting and claiming at once changes nothing if it fails. -/
theorem eq_of_nextNotLeased_error {max : UInt32}
    (hb : ∀ t, b.database.table? k.kind.schema.mapping.table = some t →
      t.definition = k.kind.schema.tableDef ∧ t.IsStored)
    (h : (s.nextNotLeased holder max filter).runOn b = (.error e, b')) : b' = b := by
  rw [nextNotLeased, Action.runOn_bind, Action.runOn_read] at h
  cases hc : s.unleasedCandidates max filter b with
  | error err =>
      rw [hc] at h
      cases h
      rfl
  | ok es =>
      rw [hc] at h
      obtain ⟨found, b₁, hrun⟩ := exists_claim_of_candidates holder hb hc
      have hboth : (Except.ok found, b₁) = (.error e, b') := by
        cases k <;> exact hrun.symm.trans h
      cases hboth

end EntityStore

/-! ### Claims as steps -/

namespace ControlPlane

/-- A claim that fails leaves the candidate leased at which it failed, and those before it that its
holder would have got, unless it changed nothing for want of a connection or of a table of leases.
Selecting and claiming at once changes nothing if it fails. -/
theorem isStuck_of_failed_step (c : ControlPlane) (k : StatefulKind) (holder : String)
    (filter : List Criterion) (b : Backend) :
    (∀ ids e b', (c.step (.stateful k (.claim holder ids filter))).runOn b = (.error e, b') →
      (b' = b ∧ (b.isOpen = false ∨ b.database.leases = none)) ∨
        ∃ done id rest, ids = done ++ id :: rest ∧
          (c.store k.kind).IsStuck holder filter b e b' done id ∧
          b'.IsHeld holder (k.kind.resource id)) ∧
    ((∀ t, b.database.table? k.kind.schema.mapping.table = some t →
        t.definition = k.kind.schema.tableDef ∧ t.IsStored) →
      ∀ max e b', (c.step (.stateful k (.next holder max filter))).runOn b = (.error e, b') →
        b' = b) := by
  refine ⟨fun ids e b' h => ?_, fun hb max e b' h => ?_⟩
  · have hstep := Action.bind_pure_eq_error h
    have hclaim : ((c.store k.kind).claim holder filter ids).runOn b = (.error e, b') := by
      cases k <;> exact Action.bind_pure_eq_error hstep
    refine (EntityStore.isStuck_of_claim hclaim).imp_right ?_
    rintro ⟨done, id, rest, hids, hstuck⟩
    exact ⟨done, id, rest, hids, hstuck, hstuck.isHeld⟩
  · have hstep := Action.bind_pure_eq_error h
    have hnext : ((c.store k.kind).nextNotLeased holder max filter).runOn b = (.error e, b') := by
      cases k <;> exact Action.bind_pure_eq_error hstep
    exact EntityStore.eq_of_nextNotLeased_error hb hnext

/-- Under a filter of an unknown property a claim fails at its first candidate, and leaves it leased
to us although nobody had a lease on it; if the candidates are selected under that filter as well,
nothing is changed. -/
theorem isHeld_of_failed_step :
    let c : ControlPlane := ⟨"we", 1000, 10⟩
    let k : StatefulKind := .contractNegotiation
    let t : Table := ⟨k.kind.schema.tableDef,
      [Entity.row (ContractNegotiation.new "n" .consumer "p" "a" 0)], by decide⟩
    let b : Backend := ⟨⟨some .empty, [t]⟩, true, ⟨60⟩, .empty⟩
    let filter : List Criterion := [⟨"nope", .equal, .int 1⟩]
    (∃ e b', (c.step (.stateful k (.claim "we" ["n"] filter))).runOn b = (.error e, b') ∧
      b.database.lease? (k.kind.resource "n") = none ∧ b'.IsHeld "we" (k.kind.resource "n")) ∧
    ∃ e b', (c.step (.stateful k (.next "we" 1 filter))).runOn b = (.error e, b') ∧ b' = b := by
  intro c k t b filter
  obtain ⟨hclaim, hnext⟩ := isStuck_of_failed_step c k "we" filter b
  constructor
  · obtain ⟨e, b', hrun⟩ :
        ∃ e b', (c.step (.stateful k (.claim "we" ["n"] filter))).runOn b = (.error e, b') :=
      ⟨_, _, rfl⟩
    refine ⟨e, b', hrun, rfl, ?_⟩
    -- there is a single id, so it is the one that failed
    obtain ⟨-, hunable⟩ | ⟨done, id, rest, hids, -, hheld⟩ := hclaim ["n"] e b' hrun
    · simp [b] at hunable
    · obtain ⟨rfl, rfl, rfl⟩ : done = [] ∧ id = "n" ∧ rest = [] := by
        cases done <;> simp_all
      exact hheld
  · have htable : ∀ t', b.database.table? k.kind.schema.mapping.table = some t' →
        t'.definition = k.kind.schema.tableDef ∧ t'.IsStored := by
      intro t' ht'
      obtain rfl : t = t' := Option.some.inj ht'
      refine ⟨rfl, fun r hr => ?_⟩
      cases List.mem_singleton.mp hr
      exact StoreKind.stores_row .contractNegotiation _
    obtain ⟨e, b', hrun⟩ :
        ∃ e b', (c.step (.stateful k (.next "we" 1 filter))).runOn b = (.error e, b') :=
      ⟨_, _, rfl⟩
    exact ⟨e, b', hrun, hnext htable 1 e b' hrun⟩

end ControlPlane

end LeasedStore
