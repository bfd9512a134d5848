/-
What a claim hands out, and what it leaves behind.

A claim goes through its candidates, which may be stale by then.  What it makes of one of them
depends on the rows of entities, which it leaves alone, and on the leases of others, which it leaves
alone as well: so it does not matter what it did to the candidates before.

* `Backend.pick`: the entity that a holder gets who claims an id;
* `Backend.Took`, `Backend.Claimed`: what a claim leaves behind;
* `EntityStore.exists_took_of_claimOne`: one candidate, which is refused, not found, found, or
  answered by an error;
* `EntityStore.exists_took_of_claim`: the candidates of a claim, one after the other, up to an
  error;
* `EntityStore.exists_runOn_claim`: all of them, if they can be read;
* `ControlPlane.exists_claimed_of_step`: the claim as a step.
-/
import LeasedStore.Store.Step
import LeasedStore.Proofs.Entity.Faithful
import LeasedStore.Proofs.Store.Alike
import LeasedStore.Proofs.Store.Excess
import LeasedStore.Proofs.Store.Matching

namespace LeasedStore

namespace Backend

variable {k : StatefulKind} {holder id : String} {filter : List Criterion} {ids : List String}
  {b b' b'' : Backend} {r : Resource}

/-! ### What a holder gets -/

/-- The entity that a holder gets who claims an id: the entity as it is now, if it meets the filter,
unless somebody else has its lease. -/
def pick (b : Backend) (k : StatefulKind) (holder : String) (filter : List Criterion)
    (id : String) : Option k.kind.Record :=
  if b.isBarred holder (k.kind.resource id) then none else b.current? k filter id

/-- The holder gets what the row of the id says. -/
lemma pick_eq_some_iff {e : k.kind.Record} : b.pick k holder filter id = some e ↔
    b.isBarred holder (k.kind.resource id) = false ∧
      ∃ r, b.database.row? k.kind id = some r ∧ r.meets k.kind.schema.mapping filter = true ∧
        Entity.ofRow r = .ok e := by
  rw [pick]
  cases b.isBarred holder (k.kind.resource id) with
  | true => simp
  | false => simp [current?, Option.bind_eq_some_iff, Option.filter_eq_some_iff,
      Except.toOption_eq_some, and_assoc]

/-- The row of an id has it. -/
lemma IsReady.cell_idColumn (hb : b.IsReady k.kind) {row : Row}
    (hr : b.database.row? k.kind id = some row) :
    row.cell k.kind.schema.mapping.idColumn = .text id := by
  obtain ⟨t, ht, hd, -⟩ := hb.table
  rw [Database.row?_of_table? ht] at hr
  exact (Table.key?_eq_iff hd).mp (by simpa using List.find?_some hr)

/-- The ids of what a holder gets are those for which he gets something. -/
lemma IsReady.ids_pick (hb : b.IsReady k.kind) (holder : String) (filter : List Criterion)
    (ids : List String) :
    (ids.filterMap (b.pick k holder filter)).map Entity.id =
      ids.filter fun id => (b.pick k holder filter id).isSome := by
  induction ids with
  | nil => rfl
  | cons id rest ih =>
      cases hp : b.pick k holder filter id with
      | none => simp [hp, ih]
      | some e =>
          obtain ⟨-, row, hr, -, he⟩ := pick_eq_some_iff.mp hp
          have hid : Entity.id e = id := by
            have hcell := (LawfulEntity.cell_of_ofRow he).symm.trans (hb.cell_idColumn hr)
            exact Cell.text.inj hcell
          simp [hp, ih, hid]

/-! ### What is left behind -/

/-- Does a holder have the active lease of a resource? -/
def IsHeld (b : Backend) (holder : String) (r : Resource) : Prop :=
  ∃ l, b.active? r = some l ∧ l.leasedBy = holder

/-- What a holder leaves behind who went through some candidates and has leases on those of them for
which something holds. -/
structure Took (b b' : Backend) (k : StatefulKind) (holder : String) (got : String → Bool)
    (ids : List String) : Prop extends b.KeepsEntities b' where
  /-- The active leases of others are what they were. -/
  others : ∀ r l, l.leasedBy ≠ holder → (b'.active? r = some l ↔ b.active? r = some l)
  /-- The leases on what was no candidate are what they were. -/
  elsewhere : ∀ r, (∀ id ∈ ids, k.kind.resource id ≠ r) →
    b'.database.lease? r = b.database.lease? r
  /-- The holder has a lease on some candidates and on no other one. -/
  held : ∀ id ∈ ids, b'.IsHeld holder (k.kind.resource id) ↔ got id = true

/-- What a claim of some candidates leaves behind. -/
structure Claimed (b b' : Backend) (k : StatefulKind) (holder : String) (filter : List Criterion)
    (ids : List String) : Prop extends b.KeepsEntities b' where
  /-- The active leases of others are what they were. -/
  others : ∀ r l, l.leasedBy ≠ holder → (b'.active? r = some l ↔ b.active? r = some l)
  /-- The leases on what was no candidate are what they were. -/
  elsewhere : ∀ r, (∀ id ∈ ids, k.kind.resource id ≠ r) →
    b'.database.lease? r = b.database.lease? r
  /-- The holder has a lease on what was handed out, and on no other candidate. -/
  held : ∀ id ∈ ids, b'.IsHeld holder (k.kind.resource id) ↔ (b.pick k holder filter id).isSome

lemma KeepsEntities.current? (h : b.KeepsEntities b') :
    b'.current? k filter id = b.current? k filter id := by
  rw [Backend.current?, Backend.current?, Database.row?, Database.row?, h.table?]

lemma not_isHeld_of_isBarred (h : b.isBarred holder r = true) : ¬ b.IsHeld holder r := by
  rintro ⟨l, hl, hmine⟩
  obtain ⟨l', hl', hne⟩ := isBarred_iff.mp h
  cases hl.symm.trans hl'
  exact hne hmine

namespace Took

variable {got : String → Bool}

lemma isBarred (h : Took b b' k holder got ids) (r : Resource) :
    b'.isBarred holder r = b.isBarred holder r := by
  rw [Bool.eq_iff_iff, isBarred_iff, isBarred_iff]
  exact exists_congr fun l => and_congr_left fun hne => h.others r l hne

lemma nil (h : ∃ lt, b.database.leases = some lt) : Took b b k holder got [] where
  toKeepsEntities := .refl h
  others _ _ _ := .rfl
  elsewhere _ _ := rfl
  held := nofun

/-- Whoever is not barred from a resource leaves the leases of others alone if he writes its row
alone. -/
lemma of_free (hkeeps : b.KeepsEntities b')
    (hfree : b.isBarred holder (k.kind.resource id) = false)
    (helse : ∀ r, k.kind.resource id ≠ r → b'.database.lease? r = b.database.lease? r)
    (hmine : ∀ l, b'.active? (k.kind.resource id) = some l → l.leasedBy = holder)
    (hheld : (b'.active? (k.kind.resource id)).isSome = got id) :
    Took b b' k holder got [id] where
  toKeepsEntities := hkeeps
  others r l hne := by
    by_cases hr : k.kind.resource id = r
    · subst hr
      exact ⟨fun hl => absurd (hmine l hl) hne, fun hl => absurd (leasedBy_of_free hfree hl) hne⟩
    · rw [active?_congr (helse r hr) hkeeps.clock]
  elsewhere r hr := helse r (hr id (List.mem_singleton_self id))
  held x hx := by
    cases List.mem_singleton.mp hx
    rw [← hheld, Option.isSome_iff_exists]
    exact exists_congr fun l => ⟨And.left, fun hl => ⟨hl, hmine l hl⟩⟩

/-- A candidate that somebody else has leased was left alone. -/
lemma of_barred (hlt : ∃ lt, b.database.leases = some lt) (hdb : b'.database = b.database)
    (hs : b'.setting = b.setting) (h : b.isBarred holder (k.kind.resource id) = true)
    (hgot : got id = false) : Took b b' k holder got [id] where
  toKeepsEntities := ⟨hs, by rw [hdb], hdb ▸ hlt⟩
  others r l _ := by rw [active?_congr (by rw [hdb]) (congrArg Prod.snd hs)]
  elsewhere r _ := by rw [hdb]
  held x hx := by
    cases List.mem_singleton.mp hx
    rw [IsHeld, active?_congr (by rw [hdb]) (congrArg Prod.snd hs), hgot]
    exact iff_of_false (not_isHeld_of_isBarred h) Bool.false_ne_true

variable {s : EntityStore k.kind.Record} {l : Lease} {d : Int64}

/-- A lease was taken on a candidate and kept. -/
lemma of_acquireIn (hfree : b.isBarred holder (k.kind.resource id) = false)
    (hacquire : (s.leases.acquireIn id holder d).runOn b = (.ok l, b')) (hgot : got id = true) :
    Took b b' k holder got [id] := by
  have hactive := LeaseManager.active?_of_acquireIn hacquire
  refine .of_free (LeaseManager.keepsEntities_of_acquireIn hacquire) hfree (fun r hr => ?_)
    (fun l' hl' => ?_) ?_
  · exact (LeaseManager.lease?_of_acquireIn hacquire r).trans (if_neg hr)
  · cases hactive.symm.trans hl'
    exact (LeaseManager.request_of_acquireIn hacquire).2.1
  · exact (congrArg Option.isSome hactive).trans hgot.symm

/-- A lease was taken on a candidate and given up. -/
lemma of_consumeIn (hfree : b.isBarred holder (k.kind.resource id) = false)
    (hacquire : (s.leases.acquireIn id holder d).runOn b = (.ok l, b'))
    (hconsume : (s.leases.consumeIn id holder).runOn b' = (.ok (), b''))
    (hgot : got id = false) : Took b b'' k holder got [id] := by
  have hnone := LeaseManager.active?_of_consumeIn hconsume
  refine .of_free ((LeaseManager.keepsEntities_of_acquireIn hacquire).trans
    (LeaseManager.keepsEntities_of_consumeIn hconsume)) hfree (fun r hr => ?_)
    (fun l' hl' => ?_) ?_
  · calc b''.database.lease? r
        _ = b'.database.lease? r := (LeaseManager.lease?_of_consumeIn hconsume r).trans (if_neg hr)
        _ = b.database.lease? r := (LeaseManager.lease?_of_acquireIn hacquire r).trans (if_neg hr)
  · cases hnone.symm.trans hl'
  · exact (congrArg Option.isSome hnone).trans hgot.symm

/-- The holder went through one candidate, and then through others. -/
lemma cons (h : Took b b' k holder got [id]) (h' : Took b' b'' k holder got ids) :
    Took b b'' k holder got (id :: ids) where
  toKeepsEntities := h.toKeepsEntities.trans h'.toKeepsEntities
  others r l hne := (h'.others r l hne).trans (h.others r l hne)
  elsewhere r hr := by
    obtain ⟨hid, hids⟩ := List.forall_mem_cons.mp hr
    rw [h'.elsewhere r hids, h.elsewhere r fun x hx => List.mem_singleton.mp hx ▸ hid]
  held x hx := by
    by_cases hrest : x ∈ ids
    · exact h'.held x hrest
    · -- it was looked at first, and nobody came back to it
      cases (List.mem_cons.mp hx).resolve_right hrest
      have hrow := h'.elsewhere (k.kind.resource id) fun y hy heq =>
        hrest ((Resource.mk.inj heq).2 ▸ hy)
      rw [IsHeld, active?_congr hrow h'.clock]
      exact h.held id (List.mem_singleton_self id)

end Took

end Backend

namespace EntityStore

variable {k : StatefulKind} {s : EntityStore k.kind.Record} {holder id : String}
  {filter : List Criterion} {ids : List String} {b b' : Backend} {lt : LeaseTable}

/-! ### One candidate -/

/-- What it comes to that a holder reads a candidate again: he gets nothing if somebody else has its
lease. -/
def reread (s : EntityStore k.kind.Record) (holder : String) (filter : List Criterion) (b : Backend)
    (id : String) : Except StoreError (Option k.kind.Record) :=
  if b.isBarred holder (k.kind.resource id) then .ok none else s.findMatching id filter b

/-- Is a candidate left leased to its holder?  Its lease is given up if he gets nothing, and not if
he gets an error. -/
def isLeft (s : EntityStore k.kind.Record) (holder : String) (filter : List Criterion) (b : Backend)
    (id : String) : Bool :=
  match s.reread holder filter b id with
  | .ok found => found.isSome
  | .error _ => true

lemma reread_of_took {got : String → Bool} (h : b.Took b' k holder got ids) :
    s.reread holder filter b' = s.reread holder filter b := by
  funext id
  rw [reread, reread, h.isBarred, s.ignoresLeases_findMatching id filter b b' h.toKeepsEntities]

lemma isLeft_of_took {got : String → Bool} (h : b.Took b' k holder got ids) :
    s.isLeft holder filter b' = s.isLeft holder filter b := by
  funext id
  rw [isLeft, isLeft, reread_of_took h]

/-- A candidate that somebody else has leased is refused. -/
lemma runOn_claimOne_of_barred (s : EntityStore k.kind.Record) (filter : List Criterion)
    (ho : b.isOpen = true) (hlt : b.database.leases = some lt)
    (hbarred : b.isBarred holder (k.kind.resource id) = true) :
    (s.claimOne holder filter id).runOn b = (.ok none, s.leases.refused b) := by
  rw [claimOne, Action.runOn_bind, Action.runOn_attempt, s.leases.runOn_acquire_of_open ho,
    LeaseManager.runOn_acquireIn_of_barred hlt hbarred]
  rfl

/-- A candidate that nobody else has leased is leased, and its lease is given up again if it is not
found any more. -/
lemma exists_runOn_claimOne_of_free (s : EntityStore k.kind.Record) (filter : List Criterion)
    (ho : b.isOpen = true) (hlt : b.database.leases = some lt)
    (hfree : b.isBarred holder (k.kind.resource id) = false) :
    ∃ b', (s.claimOne holder filter id).runOn b = (s.findMatching id filter b, b') ∧
      b.Took b' k holder (s.isLeft holder filter b) [id] := by
  have hleft : s.isLeft holder filter b id =
      match s.findMatching id filter b with
      | .ok found => found.isSome
      | .error _ => true := by
    rw [isLeft, reread, hfree]
    rfl
  obtain ⟨l, b₁, hacquire⟩ :=
    LeaseManager.exists_acquireIn_of_free (m := s.leases) hlt hfree s.leases.duration
  have hkeeps := LeaseManager.keepsEntities_of_acquireIn hacquire
  have hsame := s.ignoresLeases_findMatching id filter b b₁ hkeeps
  rw [claimOne, Action.runOn_bind, Action.runOn_attempt, s.leases.runOn_acquire_of_open ho,
    hacquire]
  dsimp only
  rw [Action.runOn_bind, Action.runOn_read, hsame]
  cases hfound : s.findMatching id filter b with
  | error e =>
      rw [hfound] at hleft
      exact ⟨b₁, rfl, .of_acquireIn hfree hacquire hleft⟩
  | ok found =>
      rw [hfound] at hleft
      cases found with
      | some e => exact ⟨b₁, rfl, .of_acquireIn hfree hacquire hleft⟩
      | none =>
          obtain ⟨lt', hlt'⟩ := hkeeps.leases
          obtain ⟨b₂, hconsume⟩ := LeaseManager.exists_consumeIn_of_active hlt'
            (LeaseManager.active?_of_acquireIn hacquire)
            (LeaseManager.request_of_acquireIn hacquire).2.1
          have ho₁ : b₁.isOpen = true := (congrArg Prod.fst hkeeps.setting).trans ho
          have hrelease : (s.leases.release id holder).runOn b₁ = (.ok (), b₂) :=
            (s.leases.runOn_release_of_open ho₁ id holder).trans hconsume
          exact ⟨b₂, Action.runOn_bind_of_ok hrelease _,
            .of_consumeIn hfree hacquire hconsume hleft⟩

/-- What happens to one candidate: the holder gets it if nobody else has its lease and it meets the
filter, and has its lease then.  He has it as well if he gets an error. -/
theorem exists_took_of_claimOne (s : EntityStore k.kind.Record) (holder : String)
    (filter : List Criterion) (id : String) (ho : b.isOpen = true)
    (hlt : b.database.leases = some lt) :
    ∃ b', (s.claimOne holder filter id).runOn b = (s.reread holder filter b id, b') ∧
      b.Took b' k holder (s.isLeft holder filter b) [id] := by
  cases hbarred : b.isBarred holder (k.kind.resource id) with
  | true =>
      have hread : s.reread holder filter b id = .ok none := by rw [reread, if_pos hbarred]
      refine ⟨s.leases.refused b, ?_, .of_barred ⟨lt, hlt⟩ rfl rfl hbarred ?_⟩
      · rw [runOn_claimOne_of_barred s filter ho hlt hbarred, hread]
      · rw [isLeft, hread]
        rfl
  | false =>
      have hread : s.reread holder filter b id = s.findMatching id filter b := by
        rw [reread, hbarred]
        rfl
      rw [hread]
      exact exists_runOn_claimOne_of_free s filter ho hlt hbarred

/-! ### All candidates -/

/-- The candidates that a claim goes through: all of them, up to the first that is answered by an
error. -/
def visited (s : EntityStore k.kind.Record) (holder : String) (filter : List Criterion)
    (b : Backend) : List String → List String
  | [] => []
  | id :: rest =>
    match s.reread holder filter b id with
    | .ok _ => id :: s.visited holder filter b rest
    | .error _ => [id]

lemma visited_of_took {got : String → Bool} (h : b.Took b' k holder got ids) (rest : List String) :
    s.visited holder filter b' rest = s.visited holder filter b rest := by
  induction rest with
  | nil => rfl
  | cons id rest ih => rw [visited, visited, reread_of_took h, ih]

/-- A claim goes through all candidates if they can be read again. -/
lemma visited_eq_self (h : ∀ id ∈ ids, ∃ found, s.reread holder filter b id = .ok found) :
    s.visited holder filter b ids = ids := by
  induction ids with
  | nil => rfl
  | cons id rest ih =>
      obtain ⟨⟨found, hid⟩, hrest⟩ := List.forall_mem_cons.mp h
      rw [visited, hid, ih hrest]

/-- What happens to the candidates of a claim: the answer is what it comes to that they are read
again one by one, and the leases on those that the claim goes through are left as they are left one
by one. -/
theorem exists_took_of_claim (s : EntityStore k.kind.Record) (holder : String)
    (filter : List Criterion) (ids : List String) (ho : b.isOpen = true)
    (hlt : b.database.leases = some lt) :
    ∃ b', (s.claim holder filter ids).runOn b =
        ((ids.mapM (s.reread holder filter b)).map List.reduceOption, b') ∧
      b.Took b' k holder (s.isLeft holder filter b) (s.visited holder filter b ids) := by
  induction ids generalizing b lt with
  | nil => exact ⟨b, rfl, .nil ⟨lt, hlt⟩⟩
  | cons id rest ih =>
      obtain ⟨b₁, hone, htook⟩ := exists_took_of_claimOne s holder filter id ho hlt
      rw [claim, visited, List.mapM_cons]
      cases hread : s.reread holder filter b id with
      | error e =>
          rw [hread] at hone
          exact ⟨b₁, Action.runOn_bind_of_error hone _, htook⟩
      | ok found =>
          rw [hread] at hone
          obtain ⟨lt₁, hlt₁⟩ := htook.leases
          obtain ⟨b₂, hmore, htook'⟩ := ih ((congrArg Prod.fst htook.setting).trans ho) hlt₁
          rw [reread_of_took htook] at hmore
          rw [isLeft_of_took htook, visited_of_took htook] at htook'
          refine ⟨b₂, ?_, htook.cons htook'⟩
          rw [Action.runOn_bind_of_ok hone, Action.runOn_bind_pure, hmore]
          cases hrest : rest.mapM (s.reread holder filter b) with
          | error e => rfl
          | ok founds => cases found <;> rfl

/-! ### Candidates that can be read again -/

/-- Candidates whose rows can be read are read again. -/
lemma reread_eq (hb : b.IsReady k.kind) (hf : k.kind.schema.mapping.Translates filter)
    (hfits : k.kind.schema.mapping.FitsLookUp filter)
    (hdecodes : ∀ r, b.database.row? k.kind id = some r →
      ∃ e : k.kind.Record, Entity.ofRow r = .ok e) :
    s.reread holder filter b id = .ok (b.pick k holder filter id) := by
  rw [reread, Backend.pick, findMatching_eq hb hf hfits hdecodes]
  split <;> rfl

/-- What happens to the candidates of a claim if their rows can be read. -/
theorem exists_runOn_claim (s : EntityStore k.kind.Record) (holder : String)
    (hb : b.IsReady k.kind) (hf : k.kind.schema.mapping.Translates filter)
    (hfits : k.kind.schema.mapping.FitsLookUp filter)
    (hdecodes : ∀ id ∈ ids, ∀ r, b.database.row? k.kind id = some r →
      ∃ e : k.kind.Record, Entity.ofRow r = .ok e) :
    ∃ b', (s.claim holder filter ids).runOn b =
        (.ok (ids.filterMap (b.pick k holder filter)), b') ∧
      b.Claimed b' k holder filter ids := by
  obtain ⟨lt, hlt⟩ := hb.leases
  obtain ⟨b', hrun, htook⟩ := exists_took_of_claim s holder filter ids hb.isOpen hlt
  have hread : ∀ id ∈ ids, s.reread holder filter b id = .ok (b.pick k holder filter id) :=
    fun id hid => reread_eq hb hf hfits (hdecodes id hid)
  rw [visited_eq_self fun id hid => ⟨_, hread id hid⟩] at htook
  refine ⟨b', ?_, htook.toKeepsEntities, htook.others, htook.elsewhere, fun id hid => ?_⟩
  · have hpicked : (ids.map (b.pick k holder filter)).reduceOption =
        ids.filterMap (b.pick k holder filter) := List.filterMap_map
    rw [hrun, Except.mapM_eq_map hread, Except.map, hpicked]
  · rw [htook.held id hid, isLeft, hread id hid]

end EntityStore

/-! ### Claims as steps -/

namespace ControlPlane

variable {k : StatefulKind} {filter : List Criterion} {ids : List String} {b : Backend}

/-- A claim of candidates hands out those of them, as they are now, that meet the filter and are not
leased by somebody else, and leaves them leased to its holder. -/
theorem exists_claimed_of_step (c : ControlPlane) (holder : String) (hb : b.IsReady k.kind)
    (hf : k.kind.schema.mapping.Translates filter)
    (hfits : k.kind.schema.mapping.FitsLookUp filter)
    (hdecodes : ∀ id ∈ ids, ∀ r, b.database.row? k.kind id = some r →
      ∃ e : k.kind.Record, Entity.ofRow r = .ok e) :
    ∃ b', (c.step (.stateful k (.claim holder ids filter))).runOn b =
        (.ok (.store k.kind (.entities (ids.filterMap (b.pick k holder filter)))), b') ∧
      (ids.filterMap (b.pick k holder filter)).map Entity.id =
        (ids.filter fun id => (b.pick k holder filter id).isSome) ∧
      b.Claimed b' k holder filter ids := by
  obtain ⟨b', hrun, hclaimed⟩ :=
    EntityStore.exists_runOn_claim (c.store k.kind) holder hb hf hfits hdecodes
  have hstep : ((c.store k.kind).statefulStep (.claim holder ids filter)).runOn b =
      (.ok (.entities (ids.filterMap (b.pick k holder filter))), b') := by
    cases k <;> exact Action.runOn_bind_of_ok hrun _
  exact ⟨b', Action.runOn_bind_of_ok hstep _, hb.ids_pick holder filter ids, hclaimed⟩

/-- Of six candidates in the same state one was leased to somebody else since, one was put into
another state, one was removed, and one is our own but in another state too: we get the other two,
although a lease on one of them was not given up when it was over. -/
theorem exists_claimed_of_stale_candidates :
    let c : ControlPlane := ⟨"we", 1000, 10⟩
    let k : StatefulKind := .contractNegotiation
    let row (id : String) (state : NegotiationState) : Row :=
      Entity.row { ContractNegotiation.new id .consumer "p" "a" 0 with state := state }
    let t : Table := ⟨k.kind.schema.tableDef, [row "leased" .requested, row "moved" .declined,
      row "ours" .declined, row "free" .requested, row "over" .requested], by decide⟩
    let lease (id holder : String) (duration : Int64) : Lease :=
      ⟨k.kind.schema.kind, id, holder, 0, duration⟩
    let lt : LeaseTable := ⟨[lease "leased" "they" 60, lease "over" "they" 59,
      lease "ours" "we" 60],
      by decide⟩
    let b : Backend := ⟨⟨some lt, [t]⟩, true, ⟨60⟩, .empty⟩
    let filter : List Criterion := [⟨"state", .equal, .int 200⟩]
    let ids := ["leased", "moved", "gone", "free", "ours", "over"]
    b.IsReady k.kind ∧ k.kind.schema.mapping.Translates filter ∧
      k.kind.schema.mapping.FitsLookUp filter ∧
      (∀ id ∈ ids, ∀ r, b.database.row? k.kind id = some r →
        ∃ e : k.kind.Record, Entity.ofRow r = .ok e) ∧
      ∃ (es : List k.kind.Record) (b' : Backend),
        (c.step (.stateful k (.claim "we" ids filter))).runOn b =
          (.ok (.store k.kind (.entities es)), b') ∧
        es.map Entity.id = ["free", "over"] ∧ b.Claimed b' k "we" filter ids := by
  intro c k row t lease lt b filter ids
  have hrows : ∀ r ∈ t.rows, ∃ n : ContractNegotiation, n.agreement = none ∧ r = Entity.row n := by
    intro r hr
    simp only [t, List.mem_cons, List.not_mem_nil, or_false] at hr
    rcases hr with rfl | rfl | rfl | rfl | rfl <;> exact ⟨_, rfl, rfl⟩
  have hstored : t.IsStored := by
    intro r hr
    obtain ⟨n, -, rfl⟩ := hrows r hr
    exact StoreKind.stores_row .contractNegotiation n
  have hb : b.IsReady k.kind := ⟨rfl, ⟨lt, rfl⟩, t, rfl, rfl, hstored⟩
  have hf : k.kind.schema.mapping.Translates filter := ⟨_, _, rfl⟩
  have hfits : k.kind.schema.mapping.FitsLookUp filter :=
    TableMapping.fitsLookUp_of_isModest hf
      (TableMapping.isModest_of_no_pattern (by decide) (by decide) (by decide))
  have hdecodes : ∀ id ∈ ids, ∀ r, b.database.row? k.kind id = some r →
      ∃ e : k.kind.Record, Entity.ofRow r = .ok e := by
    intro id _ r hr
    obtain ⟨n, hn, rfl⟩ := hrows r (Table.mem_rows_of_find? hr)
    exact ⟨n, DocumentedEntity.ofRow_row n (by simp [DocumentedEntity.documents, hn])⟩
  obtain ⟨b', hrun, hids, hclaimed⟩ := exists_claimed_of_step c "we" hb hf hfits hdecodes
  refine ⟨hb, hf, hfits, hdecodes, _, b', hrun, ?_, hclaimed⟩
  rw [hids]
  decide +kernel

/-- With so many criteria that there is no room for one more on the id, a claim of an entity that
meets them all and that nobody holds fails, and leaves the entity leased. -/
theorem step_claim_of_criteria_without_room :
    let c : ControlPlane := ⟨"we", 1000, 10⟩
    let k : StatefulKind := .contractNegotiation
    let n : k.kind.Record := ContractNegotiation.new "n" .consumer "p" "a" 0
    let t : Table := ⟨k.kind.schema.tableDef, [Entity.row n], by decide⟩
    let b : Backend := ⟨⟨some .empty, [t]⟩, true, ⟨60⟩, .empty⟩
    let filter := List.replicate 999 (Criterion.equals "id" (.text "n"))
    b.IsReady k.kind ∧ k.kind.schema.mapping.Translates filter ∧
      (∀ r, b.database.row? k.kind "n" = some r → ∃ e : k.kind.Record, Entity.ofRow r = .ok e) ∧
      b.pick k "we" filter "n" = some n ∧
      ∃ b', (c.step (.stateful k (.claim "we" ["n"] filter))).runOn b =
          (.error (.database .tooDeep), b') ∧
        b'.IsHeld "we" (k.kind.resource "n") := by
  intro c k n t b filter
  have hstored : t.IsStored := by
    intro r hr
    cases List.mem_singleton.mp hr
    exact StoreKind.stores_row .contractNegotiation n
  have hb : b.IsReady k.kind := ⟨rfl, ⟨_, rfl⟩, t, rfl, rfl, hstored⟩
  have hf : k.kind.schema.mapping.Translates filter :=
    TableMapping.translates_replicate .contractNegotiation "n" 999
  have hof : Entity.ofRow (Entity.row n) = .ok n :=
    DocumentedEntity.ofRow_row n fun j hj => by cases hj
  have hrow : b.database.row? k.kind "n" = some (Entity.row n) := rfl
  have hmeets : (Entity.row n).meets k.kind.schema.mapping filter = true := by
    refine List.all_eq_true.mpr fun criterion hcriterion => ?_
    cases List.eq_of_mem_replicate hcriterion
    decide +kernel
  have hmany : Criterion.AreTooMany filter 1 :=
    Criterion.areTooMany_replicate "id" "n" (by decide) (by decide)
  -- nobody holds the negotiation, so that it is leased before it is read again
  have hread : (c.store k.kind).reread "we" filter b "n" = .error (.database .tooDeep) := by
    have hfree : b.isBarred "we" (k.kind.resource "n") = false := rfl
    rw [EntityStore.reread, hfree, if_neg Bool.false_ne_true]
    exact EntityStore.findMatching_of_tooMany rfl hmany hf "n"
  obtain ⟨b', hrun, htook⟩ :=
    EntityStore.exists_took_of_claim (c.store k.kind) "we" filter ["n"] hb.isOpen rfl
  rw [List.mapM_cons, hread] at hrun
  refine ⟨hb, hf, fun r hr => ?_,
    Backend.pick_eq_some_iff.mpr ⟨rfl, _, hrow, hmeets, hof⟩, b', ?_, ?_⟩
  · cases hrow.symm.trans hr
    exact ⟨n, hof⟩
  · exact Action.runOn_bind_of_error (Action.runOn_bind_of_error hrun _) _
  · refine (htook.held "n" ?_).mpr ?_
    · rw [EntityStore.visited, hread]
      exact List.mem_singleton_self _
    · rw [EntityStore.isLeft, hread]

end ControlPlane

end LeasedStore
