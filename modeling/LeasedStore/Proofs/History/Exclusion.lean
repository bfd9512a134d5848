/-
Whoever holds an active lease has the entity for himself.

A lease that was taken stays in its row until it is over, given up or broken: nobody else can put
another one in its place.  As long as it is there and active, all that others try is refused in the
name of its holder, and the entity is neither offered to them nor handed out.

* `Entry.Spares`, `Entry.lease?_after`: a call that does not end a lease leaves it where it is;
* `Linked.lease?_of_spared`: neither do many calls;
* `Backend.Excludes`: what others are refused;
* `History.excludes_of_grants`: the holder of a lease excludes all others until the lease is over.
-/
import LeasedStore.Proofs.History.Linked
import LeasedStore.Proofs.Lease.Expiry
import LeasedStore.Proofs.Store.Schema
import LeasedStore.Proofs.Store.Search

namespace LeasedStore

variable {b₀ b : Backend} {l : Lease}

/-! ### Leases that stay -/

namespace Entry

variable {x : Entry}

/-- Does the call leave a lease to its holder, who neither renews it nor gives it up? -/
structure Spares (x : Entry) (l : Lease) : Prop where
  acquires : ¬ x.Acquires l.resource l.leasedBy
  releases : ¬ x.Releases l.resource l.leasedBy
  writes : ¬ x.Writes l.resource l.leasedBy
  breaks : ¬ x.Breaks l.resource

instance (x : Entry) (l : Lease) : Decidable (x.Spares l) :=
  decidable_of_iff (¬ x.Acquires l.resource l.leasedBy ∧ ¬ x.Releases l.resource l.leasedBy ∧
      ¬ x.Writes l.resource l.leasedBy ∧ ¬ x.Breaks l.resource)
    ⟨fun h => ⟨h.1, h.2.1, h.2.2.1, h.2.2.2⟩, fun h => ⟨h.1, h.2, h.3, h.4⟩⟩

/-- A lease that is taken is the row of its resource. -/
lemma Grants.lease?_after (hg : x.Grants l) : x.after.database.lease? l.resource = some l := by
  obtain ⟨hp, k, ha⟩ := hg
  cases x.effect l.resource with
  | granted l' hg' _ _ _ hafter =>
      obtain ⟨-, k', ha'⟩ := hg'
      cases ha.symm.trans ha'
      exact hafter
  | givenUp _ _ _ hh _ => rcases hh with hh | hh <;> cases hp.symm.trans hh.1
  | broken hb _ => cases hp.symm.trans hb.1
  | untouched ht _ => exact absurd (.inl ⟨l.leasedBy, .inl ⟨hp, _, ha⟩⟩) ht

/-- A lease is only taken from an open backend, and by the call that takes leases. -/
lemma Grants.exists_acquireIn (hg : x.Grants l) :
    x.before.isOpen = true ∧ ∃ (m : LeaseManager) (id holder : String) (d : Int64),
      (m.acquireIn id holder d).runOn x.before = (.ok l, x.after) := by
  -- only three calls take leases, and the purpose rules out the others
  obtain ⟨hp, k, ha⟩ := hg
  have ho := x.outcome_eq
  rw [ha] at ho
  obtain ⟨c, call, b⟩ := x
  cases call with
  | store k s =>
      cases s with
      | lease m =>
          obtain ⟨_, hs, hanswer⟩ := Action.bind_pure_eq_ok ho
          obtain ⟨_, hm, rfl⟩ := Action.bind_pure_eq_ok hs
          cases hanswer
          cases m with
          | acquire id holder =>
              obtain ⟨_, hl, hsome⟩ := Action.bind_pure_eq_ok hm
              cases hsome
              obtain ⟨hopen, hl⟩ := Action.connect_bind_eq_ok.mp hl
              exact ⟨hopen, _, id, holder, _, hl⟩
          | acquireFor id holder d =>
              obtain ⟨_, hl, hsome⟩ := Action.bind_pure_eq_ok hm
              cases hsome
              obtain ⟨hopen, hl⟩ := Action.connect_bind_eq_ok.mp hl
              exact ⟨hopen, _, id, holder, _, hl⟩
          | _ => cases hp
      | _ => cases hp
  | within k m =>
      obtain ⟨hopen, ho⟩ := Action.connect_bind_eq_ok.mp ho
      obtain ⟨_, hm, hanswer⟩ := Action.bind_pure_eq_ok ho
      cases hanswer
      cases m with
      | acquire id holder d =>
          obtain ⟨_, hl, hsome⟩ := Action.bind_pure_eq_ok hm
          cases hsome
          exact ⟨hopen, _, id, holder, d, hl⟩
      | _ => cases hp
  | _ => cases hp

lemma Grants.isOpen (hg : x.Grants l) : x.before.isOpen = true := hg.exists_acquireIn.1

lemma Grants.isBounded (hg : x.Grants l) : l.IsBounded := by
  obtain ⟨-, m, id, holder, d, hl⟩ := hg.exists_acquireIn
  exact (LeaseManager.isGranted_of_acquireIn hl).2.isBounded

/-- An active lease that is spared stays where it is. -/
lemma lease?_after (hr : x.before.database.lease? l.resource = some l)
    (ha : l.IsActive x.before.clock.now) (hs : x.Spares l) :
    x.after.database.lease? l.resource = some l := by
  cases x.effect l.resource with
  | granted l' hg hres _ hfree _ =>
      have hacq : x.Acquires l.resource l'.leasedBy := by
        obtain ⟨hp, k, hans⟩ := hg
        exact ⟨hres ▸ hp, _, hans⟩
      rcases hfree l hr with hsame | hover
      · exact absurd (hsame ▸ hacq) hs.acquires
      · exact absurd ha hover
  | givenUp current hb _ hh _ =>
      rw [hr] at hb
      cases hb
      rcases hh with hh | hh
      · exact absurd hh hs.releases
      · exact absurd hh hs.writes
  | broken hb _ => exact absurd hb hs.breaks
  | untouched _ hafter => rw [hafter, hr]

end Entry

/-- A lease that was taken stays where it is while it is active and spared. -/
theorem Linked.lease?_of_spared {acq : Entry} {since before : List Entry}
    (hl : Linked b₀ (since ++ acq :: before) b) (hg : acq.Grants l)
    (hs : ∀ x ∈ since, x.Spares l) (ha : ∀ x ∈ since, l.IsActive x.before.clock.now) :
    b.database.lease? l.resource = some l := by
  induction since generalizing b with
  | nil =>
      rw [hl.1.database]
      exact hg.lease?_after
  | cons x rest ih =>
      have hbefore : x.before.database.lease? l.resource = some l :=
        ih hl.2 (fun y hy => hs y (List.mem_cons_of_mem _ hy))
          fun y hy => ha y (List.mem_cons_of_mem _ hy)
      rw [hl.1.database]
      exact Entry.lease?_after hbefore (ha x (List.mem_cons_self ..)) (hs x (List.mem_cons_self ..))

/-! ### What others are refused -/

/-- Is an action refused because of the lease of a holder, and does it change no table? -/
structure Action.IsRefused {α : Type} (a : Action α) (b : Backend) (id holder : String) :
    Prop where
  answer : (a.runOn b).1 = .error (.leaseConflict id (some holder))
  database : (a.runOn b).2.database = b.database

/-- What somebody is refused on account of a lease: all writes and all calls about the lease, and
the entity is neither offered nor handed out to him. -/
structure Backend.Excludes (b : Backend) (l : Lease) (k : StoreKind) (id : String)
    (c : ControlPlane) (other : String) : Prop where
  acquire : ((c.store k).leases.acquire id other).IsRefused b id l.leasedBy
  acquireFor (d : Duration) : ((c.store k).leases.acquireFor id other d).IsRefused b id l.leasedBy
  acquireIn (d : Int64) : ((c.store k).leases.acquireIn id other d).IsRefused b id l.leasedBy
  release : ((c.store k).leases.release id other).IsRefused b id l.leasedBy
  consumeIn : ((c.store k).leases.consumeIn id other).IsRefused b id l.leasedBy
  update (e : k.Record) (he : Entity.id e = id) :
    ((c.store k).update e other).IsRefused b id l.leasedBy
  delete : ((c.store k).delete id other).IsRefused b id l.leasedBy
  find : (c.store k).leases.find id b = .ok (some l)
  /-- Whatever is claimed, the entity is not. -/
  claim (filter : List Criterion) (ids : List String) (es : List k.Record) (b' : Backend)
    (h : ((c.store k).claim other filter ids).runOn b = (.ok es, b')) :
    ∀ e ∈ es, Entity.id e ≠ id
  /-- Whoever looks for candidates, the entity is none. -/
  candidates (k' : StatefulKind) (hk : k'.kind = k) (max : UInt32) (filter : List Criterion)
    (es : List k'.kind.Record) (h : (c.store k'.kind).unleasedCandidates max filter b = .ok es) :
    ∀ e ∈ es, Entity.id e ≠ id
  /-- Whatever work somebody else asks for, the entity is not part of it. -/
  next (k' : StatefulKind) (hk : k'.kind = k) (max : UInt32) (filter : List Criterion)
    (es : List k'.kind.Record) (b' : Backend)
    (h : ((c.store k'.kind).nextNotLeased other max filter).runOn b = (.ok es, b')) :
    ∀ e ∈ es, Entity.id e ≠ id

/-- Is a lease in its row, and active? -/
structure Backend.Holds (b : Backend) (l : Lease) : Prop where
  isOpen : b.isOpen = true
  lease? : b.database.lease? l.resource = some l
  active : l.IsActive b.clock.now

namespace Backend.Holds

variable {k : StoreKind} {id other : String} {c : ControlPlane}

lemma refusal_eq (h : b.Holds l) {m : LeaseManager} (hr : l.resource = m.resource id) :
    m.refusal id b = .leaseConflict id (some l.leasedBy) := by
  rw [LeaseManager.refusal, ← hr, h.lease?, Option.filter_some, if_pos (by simpa using h.active)]
  rfl

/-- Others do not get the lease. -/
lemma isRefused_acquireIn (h : b.Holds l) {m : LeaseManager} (hr : l.resource = m.resource id)
    (ho : other ≠ l.leasedBy) (d : Int64) :
    (m.acquireIn id other d).IsRefused b id l.leasedBy := by
  obtain ⟨t, ht, hf⟩ := Database.leases_of_lease? h.lease?
  have hnone : t.acquire (m.request id other b.clock.now d) = none := by
    refine LeaseTable.acquire_eq_none_iff.mpr ⟨l, ?_, ho.symm, h.active⟩
    rw [← hf, hr]
    rfl
  have hrun := LeaseManager.runOn_acquireIn_of_refused ht hnone
  exact ⟨by rw [hrun, h.refusal_eq hr], by rw [hrun]; rfl⟩

/-- Others have no lease to give up. -/
lemma consume_eq_none (h : b.Holds l) (ho : other ≠ l.leasedBy) {t : LeaseTable}
    (ht : b.database.leases = some t) : t.consume b.clock.now l.resource other = none := by
  refine LeaseTable.consume_eq_none_iff.mpr fun current hc _ => ?_
  rw [← Database.lease?_of_leases ht, h.lease?] at hc
  cases hc
  exact ho.symm

lemma isRefused_consumeIn (h : b.Holds l) {m : LeaseManager} (hr : l.resource = m.resource id)
    (ho : other ≠ l.leasedBy) : (m.consumeIn id other).IsRefused b id l.leasedBy := by
  obtain ⟨t, ht, -⟩ := Database.leases_of_lease? h.lease?
  have hrun := LeaseManager.runOn_consumeIn_of_refused ht (hr ▸ h.consume_eq_none ho ht)
  exact ⟨by rw [hrun, h.refusal_eq hr], by rw [hrun]; rfl⟩

lemma isRefused_connect {α : Type} {a : Action α} {holder : String} (h : b.Holds l)
    (ha : a.IsRefused b id holder) : (Action.connect >>= fun _ => a).IsRefused b id holder := by
  have hrun := Action.runOn_connect_bind_of_open h.isOpen a
  exact ⟨by rw [hrun, ha.answer], by rw [hrun, ha.database]⟩

/-- Others do not write the entity. -/
lemma isRefused_guarded (h : b.Holds l) {s : EntityStore k.Record}
    (hr : l.resource = k.resource id) (ho : other ≠ l.leasedBy) (op : Mutation)
    (write : Table → Except DatabaseError (Option Table)) :
    (s.guarded op id other write).IsRefused b id l.leasedBy := by
  obtain ⟨t, ht, -⟩ := Database.leases_of_lease? h.lease?
  have hnone : t.consume b.clock.now (s.leases.resource id) other = none := by
    have hnone := h.consume_eq_none ho ht
    rw [hr] at hnone
    exact hnone
  have hrun : (s.guarded op id other write).runOn b = _ :=
    EntityStore.runOn_guarded_of_refused h.isOpen ht hnone
  exact ⟨by rw [hrun]; exact congrArg Except.error (h.refusal_eq hr), by rw [hrun]; rfl⟩

/-- A call that spares a lease, and is no move of the clock, leaves it held. -/
lemma after {x : Entry} (h : x.before.Holds l) (hs : x.Spares l)
    (hm : x.call.isClockMove = false) : x.after.Holds l where
  isOpen := x.isOpen_after.trans h.isOpen
  lease? := x.lease?_after h.lease? h.active hs
  active := by
    have hclock : x.after.clock = x.before.clock := congrArg Prod.snd (x.setting_after hm)
    rw [hclock]
    exact h.active

lemma spares_of_purpose {x : Entry} {r : Resource} (ho : other ≠ l.leasedBy)
    (hp : x.call.purpose = .acquire r other ∨ x.call.purpose = .release r other) :
    x.Spares l := by
  refine ⟨fun h => ?_, fun h => ?_, fun h => ?_, fun h => ?_⟩ <;> rcases hp with hp | hp <;>
    cases hp.symm.trans h.1 <;> exact ho rfl

/-- The attempt of somebody else to claim an entity leaves the lease held, and does not hand out
the entity of the lease. -/
lemma claimOne (h : b.Holds l) (hr : l.resource = k.resource id) (ho : other ≠ l.leasedBy)
    {filter : List Criterion} {id' : String} {found : Option k.Record} {b' : Backend}
    (hrun : ((c.store k).claimOne other filter id').runOn b = (.ok found, b')) :
    b'.Holds l ∧ ∀ e ∈ found, Entity.id e ≠ id := by
  rw [EntityStore.claimOne, Action.runOn_bind, Action.runOn_attempt] at hrun
  rcases hacq : ((c.store k).leases.acquire id' other).runOn b with ⟨e | lease, b₁⟩
  all_goals
    have htaken : (⟨c, .store k (.lease (.acquire id' other)), b⟩ : Entry).after.Holds l :=
      h.after (spares_of_purpose ho (.inl rfl)) rfl
    rw [after_acquire] at htaken
    rw [hacq] at hrun htaken
    dsimp only at hrun htaken
  · split at hrun
    · cases hrun
      exact ⟨htaken, fun e he => by cases he⟩
    · cases hrun
  -- the lease that is held would have stood in the way of the acquisition of the same id
  · have hne : id' ≠ id := by
      rintro rfl
      have hm : l.resource = (c.store k).leases.resource id' := hr
      have hrefused := h.isRefused_connect (h.isRefused_acquireIn hm ho (c.store k).leases.duration)
      have hanswer : (((c.store k).leases.acquire id' other).runOn b).1 = _ := hrefused.answer
      rw [hacq] at hanswer
      cases hanswer
    rw [Action.runOn_bind, Action.runOn_read] at hrun
    cases hf : (c.store k).findMatching id' filter b₁ with
    | error e => rw [hf] at hrun; cases hrun
    | ok current =>
        rw [hf] at hrun
        cases current with
        | some current =>
            cases hrun
            refine ⟨htaken, fun e he => ?_⟩
            cases he
            rw [EntityStore.id_of_findMatching hf]
            exact hne
        -- what was acquired in vain is given up again, which spares the lease as well
        | none =>
            have hreleased :
                (⟨c, .store k (.lease (.release id' other)), b₁⟩ : Entry).after.Holds l :=
              htaken.after (spares_of_purpose ho (.inr rfl)) rfl
            rw [after_release] at hreleased
            dsimp only at hrun
            obtain ⟨u, hrel, rfl⟩ := Action.bind_pure_eq_ok hrun
            rw [hrel] at hreleased
            exact ⟨hreleased, fun e he => by cases he⟩

/-- Whatever somebody else claims, the entity of the lease is not handed out. -/
lemma claim (h : b.Holds l) (hr : l.resource = k.resource id) (ho : other ≠ l.leasedBy)
    {filter : List Criterion} {ids : List String} {es : List k.Record} {b' : Backend}
    (hrun : ((c.store k).claim other filter ids).runOn b = (.ok es, b')) :
    ∀ e ∈ es, Entity.id e ≠ id := by
  induction ids generalizing b es with
  | nil =>
      cases hrun
      exact fun e he => by cases he
  | cons id' rest ih =>
      obtain ⟨found, b₁, hone, hrun⟩ := Action.bind_eq_ok.mp hrun
      obtain ⟨more, hmore, rfl⟩ := Action.bind_pure_eq_ok hrun
      obtain ⟨hheld, hfound⟩ := h.claimOne hr ho hone
      intro e he
      rcases List.mem_append.mp he with he | he
      · exact hfound e (Option.mem_toList.mp he)
      · exact ih hheld hmore e he

/-- A lease that is held excludes all others. -/
theorem excludes (h : b.Holds l) (hr : l.resource = k.resource id) (ho : other ≠ l.leasedBy)
    (c : ControlPlane) : b.Excludes l k id c other := by
  have hm : l.resource = (c.store k).leases.resource id := hr
  have hrow : b.database.lease? ((c.store k).leases.resource id) = some l := hm ▸ h.lease?
  obtain ⟨t, ht, -⟩ := Database.leases_of_lease? h.lease?
  exact {
    acquire := h.isRefused_connect (h.isRefused_acquireIn hm ho _)
    acquireFor := fun _ => h.isRefused_connect (h.isRefused_acquireIn hm ho _)
    acquireIn := h.isRefused_acquireIn hm ho
    release := h.isRefused_connect (h.isRefused_consumeIn hm ho)
    consumeIn := h.isRefused_consumeIn hm ho
    update := by
      rintro e rfl
      exact h.isRefused_guarded hr ho _ _
    delete := h.isRefused_guarded hr ho _ _
    find := by
      rw [LeaseManager.find_of_open h.isOpen ht, hrow, Option.filter_some,
        if_pos (by simpa using h.active)]
    claim := fun filter ids es b' hrun => h.claim hr ho hrun
    candidates := by
      rintro k' rfl max filter es hes e he rfl
      exact EntityStore.free_of_unleasedCandidates hes he hrow h.active
    -- the next entities are claimed from candidates that are read first
    next := by
      rintro k' rfl max filter es b' hrun
      obtain ⟨found, b'', hread, hrun⟩ := Action.bind_eq_ok.mp hrun
      cases Action.eq_of_read hread
      cases k' <;> exact h.claim hr ho hrun }

end Backend.Holds

/-! ### Histories -/

/-- From the instant at which somebody takes a lease until it is over, and unless he takes it again,
gives it up or somebody breaks it, it excludes all others. -/
theorem History.excludes_of_grants {moves : List Move} {h : History} {acq : Entry}
    {since before : List Entry} {k : StoreKind} {id other : String}
    (hrun : run moves (.start b₀) = some h) (hpast : h.past = since ++ acq :: before)
    (hg : acq.Grants l) (hr : l.resource = k.resource id) (hs : ∀ x ∈ since, x.Spares l)
    (hclock : ∀ x ∈ since, x.before.clock.now.toInt ≤ l.leasedAt.toInt + l.duration.toInt)
    (hnow : h.backend.clock.now.toInt ≤ l.leasedAt.toInt + l.duration.toInt)
    (ho : other ≠ l.leasedBy) (c : ControlPlane) :
    h.backend.Excludes l k id c other := by
  have hl := linked_of_run hrun
  rw [hpast] at hl
  have hopen : h.backend.isOpen = true := by
    rw [isOpen_of_linked hl, ← isOpen_of_linked hl.before_of_append]
    exact hg.isOpen
  have hactive (now : Int64) : l.IsActive now ↔ now.toInt ≤ l.leasedAt.toInt + l.duration.toInt :=
    hg.isBounded.isActive_iff now
  have hstays := hl.lease?_of_spared hg hs fun x hx => (hactive _).mpr (hclock x hx)
  have hheld : h.backend.Holds l := ⟨hopen, hstays, (hactive _).mpr hnow⟩
  exact hheld.excludes hr ho c

/-- A lease that was taken at zero for a second excludes all others at the end of that second. -/
theorem History.excludes_at_expiry :
    let c : ControlPlane := ⟨"here", 1000, 10⟩
    let l : Lease := ⟨"contract-negotiation", "n", "a", 0, 1000⟩
    let moves : List Move :=
      [.step c (.store .contractNegotiation (.lease (.acquire "n" "a"))),
        .step c (.store .contractNegotiation (.lease (.acquire "n" "b"))),
        .step c (.setClock 1000)]
    ∃ h acq since before, run moves (.start (.founded 0)) = some h ∧
      h.past = since ++ acq :: before ∧ acq.Grants l ∧ l.expiry = h.backend.clock.now.toInt ∧
      h.backend.Excludes l .contractNegotiation "n" c "b" := by
  intro c l moves
  refine ⟨_, _, [_, _], [], rfl, rfl, ?hg, ?_, ?_⟩
  case hg => decide +kernel
  · decide +kernel
  · exact @excludes_of_grants _ _ moves _ _ [_, _] [] _ _ _ rfl rfl (by decide +kernel) rfl
      (by decide +kernel) (by decide +kernel) (by decide +kernel) (by decide) c

end LeasedStore
