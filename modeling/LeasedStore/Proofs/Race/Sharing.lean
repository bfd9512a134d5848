/-
Holders who race for the same candidates share none of them and lose none of them.

Nothing that happens in a race takes away what somebody relies on: rows of entities stay as they
are, and whoever has an active lease keeps it.  So a candidate that is refused stays refused, and
one that is leased is found, since its row meets the filter as it did when it was selected.

* `Backend.Upholds`: are rows kept, and the holders of active leases?
* `Backend.Offers`: can a candidate be looked up, and will it be found?
* `Claim.IsSound`, `Claim.IsSound.next`: what a claim can rely on, and that its next call keeps it
  so;
* `Claim.IsSound.exists_made`: a claim of the store with all its calls at once;
* `Race.IsSound`, `Race.IsSound.run`: the same for all claims of a race, over any number of turns;
* `Race.isShared_of_run`: what the claims of a race hand out.
-/
import Mathlib
import LeasedStore.Proofs.Race.Basic
import LeasedStore.Proofs.Store.Candidates
import LeasedStore.Proofs.Store.Claiming
import LeasedStore.Proofs.Store.Limits

namespace LeasedStore

variable {b b' b'' b₀ : Backend}

/-! ### What is kept -/

/-- Are rows of entities with a state kept, and the holders of active leases? -/
structure Backend.Upholds (b b' : Backend) : Prop where
  isReady : ∀ k : StatefulKind, b.IsReady k.kind → b'.IsReady k.kind
  row? : ∀ (k : StatefulKind) id row, b.database.row? k.kind id = some row →
    b'.database.row? k.kind id = some row
  holder : ∀ r l, b.active? r = some l → ∃ l', b'.active? r = some l' ∧ l'.leasedBy = l.leasedBy

namespace Backend.Upholds

variable {k : StatefulKind} {holder id : String} {r : Resource} {filter : List Criterion}

lemma of_eq (hdb : b'.database = b.database) (hs : b'.setting = b.setting) : b.Upholds b' where
  isReady k h := h.ofTables (congrArg Prod.fst hs) (hdb ▸ h.leases) fun name => by rw [hdb]
  row? k id row hr := by rwa [hdb]
  holder r l hl := ⟨l, by rwa [active?_congr (by rw [hdb]) (congrArg Prod.snd hs)], rfl⟩

/-- What is upheld twice is upheld. -/
lemma trans (h : b.Upholds b') (h' : b'.Upholds b'') : b.Upholds b'' where
  isReady k hk := h'.isReady k (h.isReady k hk)
  row? k id row hr := h'.row? k id row (h.row? k id row hr)
  holder r l hl := by
    obtain ⟨l', hl', hsame⟩ := h.holder r l hl
    obtain ⟨l'', hl'', hsame'⟩ := h'.holder r l' hl'
    exact ⟨l'', hl'', hsame'.trans hsame⟩

lemma isHeld (h : b.Upholds b') (hr : b.IsHeld holder r) : b'.IsHeld holder r := by
  obtain ⟨l, hl, hmine⟩ := hr
  obtain ⟨l', hl', hsame⟩ := h.holder r l hl
  exact ⟨l', hl', hsame.trans hmine⟩

lemma isBarred (h : b.Upholds b') (hr : b.isBarred holder r = true) :
    b'.isBarred holder r = true := by
  obtain ⟨l, hl, hne⟩ := isBarred_iff.mp hr
  obtain ⟨l', hl', hsame⟩ := h.holder r l hl
  exact isBarred_iff.mpr ⟨l', hl', hsame ▸ hne⟩

/-- An entity that meets a filter stays as it is. -/
lemma current? {e : k.kind.Record} (h : b.Upholds b') (he : b.current? k filter id = some e) :
    b'.current? k filter id = some e := by
  obtain ⟨row, hrow, -⟩ := Option.bind_eq_some_iff.mp he
  have hkept := h.row? k id row (Option.filter_eq_some_iff.mp hrow).1
  rw [Backend.current?, (Option.filter_eq_some_iff.mp hrow).1] at he
  rwa [Backend.current?, hkept]

/-- Taking a lease takes it from nobody else. -/
lemma of_acquireIn {m : LeaseManager} {d : Int64} {l : Lease}
    (h : (m.acquireIn id holder d).runOn b = (.ok l, b')) : b.Upholds b' where
  isReady k hk := hk.ofKeeps (LeaseManager.keepsEntities_of_acquireIn h)
  row? k id row hr := by
    rwa [Database.row?, (LeaseManager.keepsEntities_of_acquireIn h).table?]
  holder r current hcurrent := by
    by_cases hr : m.resource id = r
    · subst hr
      obtain ⟨hrow, hactive⟩ := active?_eq_some_iff.mp hcurrent
      have hsame := (LeaseManager.free_of_acquireIn h hrow).resolve_right fun hn => hn hactive
      exact ⟨l, LeaseManager.active?_of_acquireIn h,
        (LeaseManager.request_of_acquireIn h).2.1.trans hsame.symm⟩
    · have hrow := (LeaseManager.lease?_of_acquireIn h r).trans (if_neg hr)
      exact ⟨current, by rwa [active?_congr hrow (LeaseManager.keepsEntities_of_acquireIn h).clock],
        rfl⟩

/-- A new entity takes nothing away. -/
lemma of_create {k : StoreKind} {s : EntityStore k.Record} {e : k.Record}
    {o : Except StoreError Unit} (h : (s.create e).runOn b = (o, b')) : b.Upholds b' := by
  have hsetting := s.keepsSetting_create e b
  rw [h] at hsetting
  cases o with
  | error report => exact of_eq (EntityStore.database_of_create_error h) hsetting
  | ok u =>
      obtain ⟨-, t, t', ht, hi, hdb⟩ := EntityStore.create_eq_ok h
      obtain ⟨hd, hrows⟩ := Table.rows_of_insert hi
      have hname : t'.name = k.schema.mapping.table := by
        rw [Table.name, hd]
        exact Database.name_of_table? ht
      refine ⟨fun k' hk' => hk'.create h, fun k' id row hrow => ?_, fun r l hl => ⟨l, ?_, rfl⟩⟩
      · by_cases hk : k = k'.kind
        · subst hk
          rw [Database.row?_of_table? ht] at hrow
          rw [hdb, Database.row?_put_self hname, Table.find?_inserted hd hrows, hrow]
          rfl
        · rwa [EntityStore.row?_of_create_of_ne h hk]
      · rwa [active?_congr (by rw [hdb, Database.lease?_put]) (congrArg Prod.snd hsetting)]

/-- A step that neither takes nor gives up a lease nor writes an entity that is there takes nothing
away. -/
lemma of_step (c : ControlPlane) {s : Step} (h : s.isHarmless = true) (b : Backend) :
    b.Upholds ((c.step s).runOn b).2 := by
  cases s with
  | store k call =>
      rw [ControlPlane.step, Action.runOn_bind_pure]
      cases call with
      | create e =>
          rw [EntityStore.step, Action.runOn_bind_pure]
          exact of_create rfl
      | update e holder => cases h
      | delete id holder => cases h
      | lease l =>
          rw [EntityStore.step, Action.runOn_bind_pure]
          cases l with
          | find id =>
              rw [LeaseManager.step, Action.runOn_bind_pure, Action.runOn_read]
              exact of_eq rfl rfl
          | _ => cases h
      -- all other calls of a store read
      | _ =>
          rw [EntityStore.step, Action.runOn_bind_pure, Action.runOn_read]
          exact of_eq rfl rfl
  | stateful k call =>
      cases call with
      | candidates max filter =>
          rw [ControlPlane.step, Action.runOn_bind_pure, EntityStore.statefulStep,
            Action.runOn_bind_pure, Action.runOn_read]
          exact of_eq rfl rfl
      | _ => cases h
  | _ => cases h

end Backend.Upholds

/-- Can an id be looked up together with a filter, and is there an entity that meets the filter? -/
structure Backend.Offers (b : Backend) (k : StatefulKind) (filter : List Criterion) (id : String) :
    Prop where
  translates : k.kind.schema.mapping.Translates filter
  fits : k.kind.schema.mapping.FitsLookUp filter
  current : ∃ e, b.current? k filter id = some e

lemma Backend.Upholds.offers {k : StatefulKind} {filter : List Criterion} {id : String}
    (h : b.Upholds b') (ho : b.Offers k filter id) : b'.Offers k filter id :=
  ⟨ho.translates, ho.fits, ho.current.imp fun _ => h.current?⟩

/-! ### Claims -/

namespace Claim

variable {x : Claim} {id : String} {rest : List String}

/-- What leases on a candidate are about. -/
def resource (x : Claim) (id : String) : Resource := x.kind.kind.resource id

/-- The ids of what the claim will hand out. -/
def ids (x : Claim) : List String := x.found.map Entity.id

/-- What a claim can rely on. -/
structure IsSound (x : Claim) (b : Backend) : Prop where
  /-- The other candidates are there and meet the filter. -/
  rest : ∀ id ∈ x.rest, b.Offers x.kind x.filter id
  /-- What it will hand out is leased to its holder. -/
  held : ∀ id ∈ x.ids, b.IsHeld x.holder (x.resource id)
  /-- What it went through it will hand out, unless somebody else has leased it. -/
  done : ∀ id ∈ x.done, id ∈ x.ids ∨ b.isBarred x.holder (x.resource id) = true
  /-- It never gives up a lease, and none of its calls failed. -/
  stage : x.stage = .take ∨ x.stage = .look
  /-- What it looks up is leased to its holder. -/
  look : x.stage = .look → ∀ id ∈ x.rest.head?, b.IsHeld x.holder (x.resource id)

namespace IsSound

/-- A claim can go on to rely on what is upheld. -/
lemma of_upholds (h : x.IsSound b) (hb : b.Upholds b') : x.IsSound b' where
  rest id hid := hb.offers (h.rest id hid)
  held id hid := hb.isHeld (h.held id hid)
  done id hid := (h.done id hid).imp_right hb.isBarred
  stage := h.stage
  look hs id hid := hb.isHeld (h.look hs id hid)

/-- A claim of candidates that are there. -/
lemma start {o : Bid} (h : ∀ id ∈ o.ids, b.Offers o.kind o.filter id) :
    (Claim.start o).IsSound b where
  rest := h
  held := nofun
  done := nofun
  stage := .inl rfl
  look := nofun

/-- A claim that went through a candidate. -/
lemma settle (h : x.IsSound b) {found : Option x.kind.kind.Record}
    (hheld : ∀ e ∈ found, Entity.id e = id ∧ b.IsHeld x.holder (x.resource id))
    (hfound : found.isSome = true ∨ b.isBarred x.holder (x.resource id) = true) :
    (x.settle id found).IsSound b := by
  have hids : (x.settle id found).ids = x.ids ++ found.toList.map Entity.id := List.map_append
  refine ⟨fun y hy => h.rest y (List.mem_of_mem_tail hy), fun y hy => ?_, fun y hy => ?_, .inl rfl,
    fun hs => by cases hs⟩
  · rw [hids] at hy
    rcases List.mem_append.mp hy with hy | hy
    · exact h.held y hy
    · obtain ⟨e, he, rfl⟩ := List.mem_map.mp hy
      obtain ⟨hid, hmine⟩ := hheld e (Option.mem_toList.mp he)
      exact hid ▸ hmine
  -- what was handed out before is still held, and the candidate is handed out or barred
  · rcases List.mem_append.mp hy with hy | hy
    · refine (h.done y hy).imp_left fun hmem => ?_
      rw [hids]
      exact List.mem_append_left _ hmem
    · cases List.mem_singleton.mp hy
      refine hfound.imp_left fun hsome => ?_
      obtain ⟨e, rfl⟩ := Option.isSome_iff_exists.mp hsome
      rw [hids, ← (hheld e rfl).1]
      exact List.mem_append_right _ (List.mem_singleton_self _)

/-- Asking for the lease of a candidate takes nothing away, and what is granted is looked up
next. -/
lemma next_of_take (h : x.IsSound b) (hb : b.IsReady x.kind.kind) (hr : x.rest = id :: rest)
    (hs : x.stage = .take) : b.Upholds (x.next b).2 ∧ (x.next b).1.IsSound (x.next b).2 := by
  have hcall : x.call = x.take id := by rw [call, hr, hs]
  have hacquire := x.store.leases.runOn_acquire_of_open hb.isOpen id x.holder
  obtain ⟨lt, hlt⟩ := hb.leases
  cases hbarred : b.isBarred x.holder (x.resource id) with
  | true =>
      rw [LeaseManager.runOn_acquireIn_of_barred (m := x.store.leases) hlt hbarred] at hacquire
      -- a conflict is counted, and nothing else happens
      have hkept : b.Upholds (x.store.leases.refused b) := .of_eq rfl rfl
      rw [next_of_ok (hcall ▸ runOn_take_of_conflict rfl hacquire)]
      refine ⟨hkept, (h.of_upholds hkept).settle (fun e he => ?_) (.inr (hkept.isBarred hbarred))⟩
      cases he
  | false =>
      obtain ⟨l, b₁, hgranted⟩ := LeaseManager.exists_acquireIn_of_free (m := x.store.leases) hlt
        hbarred x.store.leases.duration
      have hkept := Backend.Upholds.of_acquireIn hgranted
      have hsound := h.of_upholds hkept
      rw [next_of_ok (hcall ▸ runOn_take_of_ok (hacquire.trans hgranted))]
      refine ⟨hkept, hsound.rest, hsound.held, hsound.done, .inr rfl, fun _ y hy => ?_⟩
      have hid : (x.toStage .look).rest.head? = some id := congrArg List.head? hr
      cases hid.symm.trans hy
      exact ⟨l, LeaseManager.active?_of_acquireIn hgranted,
        (LeaseManager.request_of_acquireIn hgranted).2.1⟩

/-- A candidate that was leased is found, since it is there and meets the filter. -/
lemma next_of_look (h : x.IsSound b) (hb : b.IsReady x.kind.kind) (hr : x.rest = id :: rest)
    (hs : x.stage = .look) : b.Upholds (x.next b).2 ∧ (x.next b).1.IsSound (x.next b).2 := by
  have hcall : x.call = x.look id := by rw [call, hr, hs]
  have hmine := h.look hs id (by rw [hr]; rfl)
  obtain ⟨htranslates, hfits, e, he⟩ := h.rest id (by rw [hr]; exact List.mem_cons_self ..)
  have hfound : x.store.findMatching id x.filter b = .ok (some e) := by
    rw [EntityStore.findMatching_eq hb htranslates hfits
      fun r => Backend.decodes_of_current? he, he]
  rw [next_of_ok (hcall ▸ runOn_look_of_some hfound)]
  refine ⟨.of_eq rfl rfl, h.settle (fun e' he' => ?_) (.inl rfl)⟩
  cases he'
  exact ⟨EntityStore.id_of_findMatching hfound, hmine⟩

/-- The next call of a claim takes nothing away, and the claim can go on. -/
theorem next (h : x.IsSound b) (hb : b.IsReady x.kind.kind) :
    b.Upholds (x.next b).2 ∧ (x.next b).1.IsSound (x.next b).2 := by
  cases hr : x.rest with
  | nil =>
      have hcall : x.call.runOn b = (.ok x, b) := by
        rw [call, hr]
        rfl
      rw [next_of_ok hcall]
      exact ⟨.of_eq rfl rfl, h⟩
  | cons id rest =>
      rcases h.stage with hs | hs
      · exact h.next_of_take hb hr hs
      · exact h.next_of_look hb hr hs

/-- So do any number of calls. -/
lemma run (h : x.IsSound b) (hb : ∀ k : StatefulKind, b.IsReady k.kind) (n : Nat) :
    b.Upholds (x.run n b).2 ∧ (x.run n b).1.IsSound (x.run n b).2 := by
  induction n generalizing x b with
  | zero => exact ⟨.of_eq rfl rfl, h⟩
  | succ n ih =>
      obtain ⟨hkept, hsound⟩ := h.next (hb x.kind)
      obtain ⟨hkept', hsound'⟩ := ih hsound fun k => hkept.isReady k (hb k)
      exact ⟨hkept.trans hkept', hsound'⟩

/-- A claim of the store does not fail, takes nothing away, and hands out what it should: it is what
its calls come to. -/
theorem exists_made {o : Bid} (hb : ∀ k : StatefulKind, b.IsReady k.kind)
    (h : ∀ id ∈ o.ids, b.Offers o.kind o.filter id) :
    ∃ es b', ((o.plane.store o.kind.kind).claim o.holder o.filter o.ids).runOn b = (.ok es, b') ∧
      b.Upholds b' ∧ (made o es).IsSound b' := by
  obtain ⟨n, hok, herror⟩ := (Claim.start o).exists_run_claim b
  have hrun := (IsSound.start h).run hb n
  rcases hclaim : ((o.plane.store o.kind.kind).claim o.holder o.filter o.ids).runOn b with
    ⟨e | es, b'⟩
  · obtain ⟨y, hy⟩ := herror e b' hclaim
    have hfailed : (Claim.start o).run n b = (y.toStage (.failed e), b') := hy
    rw [hfailed] at hrun
    rcases hrun.2.stage with hstage | hstage <;> cases hstage
  · have hmade : (Claim.start o).run n b = (made o es, b') := hok es b' hclaim
    rw [hmade] at hrun
    exact ⟨es, b', rfl, hrun⟩

end IsSound

end Claim

/-! ### Races -/

namespace Race

/-- What the claims of a race can rely on. -/
structure IsSound (r : Race) : Prop where
  isReady : ∀ k : StatefulKind, r.backend.IsReady k.kind
  /-- What was selected is there and meets the filter. -/
  offers : ∀ p ∈ r.offers, r.backend.Offers p.1 p.2.1 p.2.2
  claims : ∀ x ∈ r.claims, x.IsSound r.backend

namespace IsSound

variable {r r' : Race} {t : Turn} {turns : List Turn}

lemma of_upholds (h : r.IsSound) (hb : r.backend.Upholds b') :
    IsSound { r with backend := b' } where
  isReady k := hb.isReady k (h.isReady k)
  offers p hp := hb.offers (h.offers p hp)
  claims x hx := (h.claims x hx).of_upholds hb

/-- One more claim that is sound. -/
lemma claims_concat {x : Claim} (h : r.IsSound) (hx : x.IsSound r.backend) :
    ∀ y ∈ r.claims ++ [x], y.IsSound r.backend := by
  intro y hy
  rcases List.mem_append.mp hy with hy | hy
  · exact h.claims y hy
  · exact List.mem_singleton.mp hy ▸ hx

/-- A race stays sound whosever turn it is. -/
theorem next (h : r.IsSound) (hn : r.next t = some r') : r'.IsSound := by
  cases t with
  | step c s =>
      rw [Race.next] at hn
      split at hn
      -- a harmless step upholds all that the race relies on
      · next hs =>
        cases hn
        exact h.of_upholds (.of_step c hs r.backend)
      · cases hn
  | select c k max filter =>
      rw [Race.next] at hn
      split at hn
      · next es hes =>
        cases hn
        refine ⟨h.isReady, fun p hp => ?_, h.claims⟩
        rcases List.mem_append.mp hp with hp | hp
        · obtain ⟨e, he, rfl⟩ := List.mem_map.mp hp
          obtain ⟨htranslates, hcurrent⟩ :=
            EntityStore.current?_of_unleasedCandidates (h.isReady k) hes he
          exact ⟨htranslates, EntityStore.fitsLookUp_of_unleasedCandidates hes he, e, hcurrent⟩
        · exact h.offers p hp
      · cases hn
        exact h
  | enter o =>
      rw [Race.next] at hn
      split at hn
      · next hids =>
        cases hn
        exact ⟨h.isReady, h.offers, h.claims_concat (.start fun id hid => h.offers _ (hids id hid))⟩
      · cases hn
  | claim o =>
      rw [Race.next] at hn
      split at hn
      · next hids =>
        cases hn
        obtain ⟨es, b', hclaim, hkept, hsound⟩ :=
          Claim.IsSound.exists_made h.isReady fun id hid => h.offers _ (hids id hid)
        have hothers := h.of_upholds hkept
        rw [Race.claim, hclaim]
        exact ⟨hothers.isReady, hothers.offers, hothers.claims_concat hsound⟩
      · cases hn
  | proceed i =>
      obtain ⟨x, hx, rfl⟩ := Option.map_eq_some_iff.mp hn
      -- one claim moves on, and what it upholds keeps the others sound
      have hmem := List.mem_of_getElem? hx
      obtain ⟨hkept, hsound⟩ := (h.claims x hmem).next (h.isReady x.kind)
      have hothers := h.of_upholds hkept
      refine ⟨hothers.isReady, hothers.offers, fun y hy => ?_⟩
      rcases List.mem_or_eq_of_mem_set hy with hy | rfl
      · exact hothers.claims y hy
      · exact hsound

/-- A race is sound after any number of turns. -/
lemma run (h : r.IsSound) (hr : Race.run turns r = some r') : r'.IsSound := by
  induction turns generalizing r with
  | nil =>
      cases hr
      exact h
  | cons t rest ih =>
      obtain ⟨r₁, ht, hr⟩ := Option.bind_eq_some_iff.mp hr
      exact ih (h.next ht) hr

end IsSound

/-- Is everything shared out as it should be? -/
structure IsShared (turns : List Turn) (r : Race) : Prop where
  /-- The claims are those that were begun, each with all of its candidates. -/
  begun : r.claims.map Claim.bid = turns.filterMap Turn.bid?
  /-- Nothing is handed out to two holders. -/
  exclusive : ∀ x ∈ r.claims, ∀ y ∈ r.claims, x.kind = y.kind →
    ∀ id, id ∈ x.ids → id ∈ y.ids → x.holder = y.holder
  /-- What is handed out is leased to whom it is handed out to. -/
  held : ∀ x ∈ r.claims, ∀ id ∈ x.ids, r.backend.IsHeld x.holder (x.resource id)
  /-- What a claim went through it hands out, unless somebody else has leased it. -/
  complete : ∀ x ∈ r.claims, ∀ id ∈ x.done,
    (id ∈ x.ids ∧ r.backend.IsHeld x.holder (x.resource id)) ∨
      r.backend.isBarred x.holder (x.resource id) = true
  /-- No call of a claim fails. -/
  smooth : ∀ x ∈ r.claims, ∀ e, x.stage ≠ .failed e

/-- However holders race for candidates, nothing is handed out to two of them, and none of the
candidates is lost. -/
theorem isShared_of_run {turns : List Turn} {r : Race}
    (hb : ∀ k : StatefulKind, b₀.IsReady k.kind) (hr : run turns (.start b₀) = some r) :
    r.IsShared turns := by
  have hstart : (start b₀).IsSound := by
    refine ⟨hb, fun p hp => ?_, fun x hx => ?_⟩
    · cases hp
    · cases hx
  have h := hstart.run hr
  refine ⟨bids_of_run hr, fun x hx y hy hk id hidx hidy => ?_, fun x hx => (h.claims x hx).held,
    fun x hx id hid => ?_, fun x hx e hs => ?_⟩
  · obtain ⟨l, hl, hlx⟩ := (h.claims x hx).held id hidx
    obtain ⟨l', hl', hly⟩ := (h.claims y hy).held id hidy
    have hsame : x.resource id = y.resource id := by rw [Claim.resource, Claim.resource, hk]
    rw [hsame] at hl
    cases hl.symm.trans hl'
    exact hlx.symm.trans hly
  · exact ((h.claims x hx).done id hid).imp_left fun hmem => ⟨hmem, (h.claims x hx).held id hmem⟩
  · rcases (h.claims x hx).stage with hstage | hstage <;> cases hstage.symm.trans hs

/-- Two claims of the same two negotiations, which come across each other in the middle while a
third one is created: each hands out the one that it came to first, and nothing is left for a claim
behind them. -/
theorem isShared_of_crossing_claims :
    let k : StatefulKind := .contractNegotiation
    let c : ControlPlane := ⟨"here", 1000, 10⟩
    let n (id : String) : ContractNegotiation := .new id .consumer "p" "a" 0
    let filter : List Criterion := [⟨"state", .equal, .int 100⟩]
    let t : Table := ⟨k.kind.schema.tableDef, [Entity.row (n "m"), Entity.row (n "n")], by decide⟩
    let b : Backend :=
      ⟨⟨some .empty, [t, .empty StoreKind.transferProcess.schema.tableDef]⟩, true, ⟨0⟩, .empty⟩
    let turns : List Turn :=
      [.select c k 5 filter, .enter ⟨c, k, "a", filter, ["m", "n"]⟩,
        .enter ⟨c, k, "b", filter, ["n", "m"]⟩, .proceed 0, .proceed 1,
        .step c (.store .contractNegotiation (.create (n "o"))), .proceed 1, .proceed 0, .proceed 0,
        .proceed 1, .claim ⟨c, k, "c", filter, ["m", "n"]⟩]
    (∀ k : StatefulKind, b.IsReady k.kind) ∧
      ∃ r, run turns (.start b) = some r ∧
        r.claims.map (fun x => (x.holder, x.done, x.ids)) =
          [("a", ["m", "n"], ["m"]), ("b", ["n", "m"], ["n"]), ("c", ["m", "n"], [])] ∧
        r.IsShared turns := by
  intro k c n filter t b turns
  have hstored : t.IsStored := by
    intro r hr
    simp only [t, List.mem_cons, List.not_mem_nil, or_false] at hr
    rcases hr with rfl | rfl <;> exact StoreKind.stores_row .contractNegotiation _
  have hb : ∀ k : StatefulKind, b.IsReady k.kind := by
    intro k
    cases k with
    | contractNegotiation => exact ⟨rfl, ⟨_, rfl⟩, t, rfl, rfl, hstored⟩
    | transferProcess => exact ⟨rfl, ⟨_, rfl⟩, .empty _, rfl, rfl, fun r hr => by cases hr⟩
  have hrun : (run turns (.start b)).map (fun r => r.claims.map fun x =>
    (x.holder, x.done, x.ids)) =
      some [("a", ["m", "n"], ["m"]), ("b", ["n", "m"], ["n"]), ("c", ["m", "n"], [])] := by
    cbv
  obtain ⟨r, hr, hclaims⟩ := Option.map_eq_some_iff.mp hrun
  exact ⟨hb, r, hr, hclaims, isShared_of_run hb hr⟩

end Race

end LeasedStore
