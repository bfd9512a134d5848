/-
What is read does not depend on leases that are over.

Their rows stay in the table, but nobody sees them: look-ups and queries by criteria do not look at
leases at all, and the query for candidates looks past those that are over.

* `Backend.Alike`: do two backends differ in leases that are over, and in counters, alone?
* `Database.select_congr`, `count_congr`: queries whose conditions hold alike answer alike;
* `Reading.IsBlind`, `Reading.IgnoresLeases`: does a reading see no difference between such
  backends, or between backends that differ in any leases?
* `EntityStore.ignoresLeases_readAll`, `isBlind_unleasedCandidates`: those of a store do not.
-/
import LeasedStore.Proofs.Lease.Active
import LeasedStore.Proofs.Query.Answer
import LeasedStore.Proofs.Store.Search

namespace LeasedStore

/-! ### Leases that are over -/

/-- Do two backends differ in leases that are over, and in counters, alone? -/
structure Backend.Alike (b b' : Backend) : Prop where
  isOpen : b'.isOpen = b.isOpen
  clock : b'.clock = b.clock
  tables : b'.database.tables = b.database.tables
  leases : (∃ t, b.database.leases = some t) ∧ ∃ t', b'.database.leases = some t'
  active? (r : Resource) : b'.active? r = b.active? r

/-! ### Conditions -/

section Conditions

variable {t t' : LeaseTable} {params : List Param} {r : Row} {conditions : List Condition}
  {q : Select.Bound} {db db' : Database}

lemma LeaseTable.isFree_congr {now : Int64} (h : ∀ r, t'.active? now r = t.active? now r)
    (kind id : Cell) : t'.isFree kind id (.int now) = t.isFree kind id (.int now) := by
  cases kind <;> cases id <;> simp only [isFree, h]

namespace Condition

lemma holds_of_not_isOnLeases {c : Condition} (h : c.isOnLeases = false) :
    c.holds t' params r = c.holds t params r := by
  cases c with
  | unleased idExpr kind now => cases h
  | _ => rfl

/-- Conditions that hold alike one by one do so together. -/
lemma allHold_congr (h : ∀ c ∈ conditions, c.holds t' params r = c.holds t params r) :
    allHold t' params r conditions = allHold t params r conditions := by
  induction conditions with
  | nil => rfl
  | cons c rest ih =>
      obtain ⟨hc, hrest⟩ := List.forall_mem_cons.mp h
      rw [allHold, allHold, test, test, hc, ih hrest]

end Condition

lemma Select.Bound.isMatch_congr
    (h : ∀ c ∈ q.query.conditions, ∀ r, c.holds t' q.params r = c.holds t q.params r)
    (d : TableDef) : q.isMatch t' d = q.isMatch t d := by
  refine funext fun r => Condition.allHold_congr fun c hc => h c ?_ r
  exact Select.mem_conditions_of_scanned hc

namespace Database

lemma table_congr (ht : db'.tables = db.tables) (name : String) :
    db'.table name = db.table name := by
  rw [table, table, table?, table?, ht]

/-- What is done with the table and the leases of a query comes to the same where it does not depend
on the leases. -/
lemma prepare_congr {β : Type} {f f' : Table × LeaseTable → Except DatabaseError β}
    (ht : db'.tables = db.tables) (hl : db.leasesOf q.query = .ok t)
    (hl' : db'.leasesOf q.query = .ok t') (h : ∀ table, f' (table, t') = f (table, t)) :
    (db'.prepare q.query >>= f') = (db.prepare q.query >>= f) := by
  rw [prepare, prepare, table_congr ht, hl, hl']
  cases q.query.read with
  | error e => rfl
  | ok _ =>
      cases db.table q.query.table with
      | error e => rfl
      | ok table =>
          cases q.query.resolve with
          | error e => rfl
          | ok _ => exact h table

/-- A query answers alike where its conditions hold alike. -/
theorem select_congr (ht : db'.tables = db.tables) (hl : db.leasesOf q.query = .ok t)
    (hl' : db'.leasesOf q.query = .ok t')
    (h : ∀ c ∈ q.query.conditions, ∀ r, c.holds t' q.params r = c.holds t q.params r) :
    db'.select q = db.select q := by
  refine prepare_congr ht hl hl' fun table => ?_
  have hrows : q.rowsOf t' table = q.rowsOf t table := by
    rw [Select.Bound.rowsOf, Select.Bound.rowsOf, Select.Bound.isMatch_congr h]
  change (q.query.checkDecided q.params q.query.conditions >>= fun _ => q.rowsOf t' table >>= _) = _
  rw [hrows]

/-- So does a query that counts. -/
theorem count_congr (ht : db'.tables = db.tables) (hl : db.leasesOf q.query = .ok t)
    (hl' : db'.leasesOf q.query = .ok t')
    (h : ∀ c ∈ q.query.conditions, ∀ r, c.holds t' q.params r = c.holds t q.params r) :
    db'.count q = db.count q := by
  refine prepare_congr ht hl hl' fun table => ?_
  change (q.query.checkDecided q.params q.query.conditions >>= fun _ =>
    takeMatching (q.isMatch t' table.definition) _ _ >>= _) = _
  rw [Select.Bound.isMatch_congr h]

end Database

end Conditions

/-! ### Readings -/

/-- Does a reading see no difference between backends that differ in leases that are over, and in
counters, alone? -/
def Reading.IsBlind {α : Type} (r : Reading α) : Prop := ∀ b b', b.Alike b' → r b' = r b

/-- Does a reading see no difference between backends that differ in leases and counters alone? -/
def Reading.IgnoresLeases {α : Type} (r : Reading α) : Prop :=
  ∀ b b', b.KeepsEntities b' → r b' = r b

namespace Reading

variable {α β : Type} {r : Reading α} {f : α → Reading β}

lemma IgnoresLeases.isBlind (h : IgnoresLeases r) : IsBlind r := fun b b' hb =>
  h b b' ⟨Prod.ext hb.isOpen hb.clock, hb.tables, hb.leases.2⟩

lemma isBlind_pure (x : α) : IsBlind (pure x) := fun _ _ _ => rfl

lemma ignoresLeases_lift (x : Except StoreError α) : IgnoresLeases (lift x) := fun _ _ _ => rfl

lemma ignoresLeases_pure (x : α) : IgnoresLeases (pure x) := fun _ _ _ => rfl

lemma ignoresLeases_connect : IgnoresLeases connect := fun b b' h => by
  have ho : b'.isOpen = b.isOpen := congrArg Prod.fst h.setting
  rw [connect, connect, ho]

lemma ignoresLeases_now : IgnoresLeases now := fun b b' h => by
  rw [now_apply, now_apply, h.clock]

lemma ignoresLeases_database {query : Database → Except DatabaseError α}
    (h : ∀ db db' : Database, db'.tables = db.tables → query db' = query db) :
    IgnoresLeases (database query) := by
  intro b b' hb
  rw [database, database, h b.database b'.database hb.tables]

lemma IgnoresLeases.bind (hr : IgnoresLeases r) (hf : ∀ x, IgnoresLeases (f x)) :
    IgnoresLeases (r >>= f) :=
  fun b b' h => bind_congr (hr b b' h) fun x _ => hf x b b' h

end Reading

namespace EntityStore

open Reading (IgnoresLeases)

variable {α : Type} [Entity α] {s : EntityStore α}

/-- A look-up. -/
lemma ignoresLeases_find (s : EntityStore α) (id : String) : IgnoresLeases (s.find id) := by
  have htable : IgnoresLeases (Reading.database s.table) :=
    Reading.ignoresLeases_database fun db db' ht => Database.table_congr ht s.mapping.table
  refine Reading.ignoresLeases_connect.bind fun _ => htable.bind fun t => ?_
  cases t.find? (.text id) with
  | none => exact Reading.ignoresLeases_pure none
  | some r =>
      exact (Reading.ignoresLeases_lift _).bind fun e => Reading.ignoresLeases_pure (some e)

/-! ### Queries by criteria -/

lemma leasesOf_of_filter {m : TableMapping} {q : Select.Bound} {filter : List Criterion}
    (h : List.Forall₂ (fun c cond => Condition.Says q.params m c cond) filter q.query.conditions)
    (db : Database) : db.leasesOf q.query = .ok .empty := by
  rw [Database.leasesOf, any_isOnLeases_of_forall₂ h]
  rfl

/-- The entities that a query answers, in one piece. -/
lemma ignoresLeases_readRows (s : EntityStore α) (spec : QuerySpec) :
    IgnoresLeases (s.readRows spec) := by
  intro b b' h
  refine Reading.bind_congr rfl fun query hlift => ?_
  obtain ⟨conditions, order, limit, offset, hquery, hmeaning, -⟩ :=
    TableMapping.select_eq_ok (Except.mapError_eq_ok.mp hlift)
  have hleases (db : Database) : db.leasesOf query.query = .ok .empty :=
    leasesOf_of_filter (by rw [hquery]; exact hmeaning) db
  have hselect : IgnoresLeases (Reading.database fun db => db.select query) :=
    Reading.ignoresLeases_database fun db db' ht =>
      Database.select_congr ht (hleases db) (hleases db') fun _ _ _ => rfl
  have hread := Reading.ignoresLeases_connect.bind fun _ =>
    hselect.bind fun rows => Reading.ignoresLeases_lift (rows.mapM (Entity.ofRow (α := α)))
  exact hread b b' h

/-- The first page of a query. -/
lemma ignoresLeases_fetchPage (s : EntityStore α) (spec : QuerySpec) :
    IgnoresLeases (s.fetchPage spec) := by
  rw [fetchPage]
  split
  · exact Reading.ignoresLeases_pure none
  · exact (ignoresLeases_readRows s _).bind fun es => Reading.ignoresLeases_pure _

/-- All pages of a query. -/
lemma ignoresLeases_readPages (s : EntityStore α) (spec : QuerySpec) :
    IgnoresLeases (s.readPages spec) := by
  intro b b' h
  have hpage (spec : QuerySpec) : s.fetchPage spec b' = s.fetchPage spec b :=
    ignoresLeases_fetchPage s spec b b' h
  fun_induction readPages s spec b with
  | case1 spec e hfetch => rw [readPages, hpage, hfetch]
  | case2 spec hfetch => rw [readPages, hpage, hfetch]
  | case3 spec page hfetch hrest =>
      rw [readPages, hpage, hfetch]
      dsimp only
      split
      · rfl
      · next rest heq => cases hrest.symm.trans heq
  | case4 spec page hfetch rest hrest ih =>
      rw [readPages, hpage, hfetch]
      dsimp only
      split
      · next heq => cases hrest.symm.trans heq
      · next rest' heq =>
        cases hrest.symm.trans heq
        rw [ih]

lemma ignoresLeases_readAll (s : EntityStore α) (spec : QuerySpec) :
    IgnoresLeases (s.readAll spec) :=
  (Reading.ignoresLeases_lift _).bind fun _ => ignoresLeases_readPages s spec

lemma ignoresLeases_findMatching (s : EntityStore α) (id : String) (filter : List Criterion) :
    IgnoresLeases (s.findMatching id filter) :=
  (ignoresLeases_readAll s _).bind fun es => Reading.ignoresLeases_pure es.head?

lemma ignoresLeases_findFirst (s : EntityStore α) (c : Criterion) :
    IgnoresLeases (s.findFirst c) :=
  (ignoresLeases_readAll s _).bind fun es => Reading.ignoresLeases_pure es.head?

/-- How many entities match a filter. -/
lemma ignoresLeases_count (s : EntityStore α) (filter : List Criterion) :
    IgnoresLeases (s.count filter) := by
  intro b b' h
  refine Reading.bind_congr rfl fun query hlift => ?_
  obtain ⟨conditions, params, hc, hrun⟩ :=
    Binding.bind_eq_ok.mp (Select.Bound.of_eq_ok.mp (Except.mapError_eq_ok.mp hlift))
  obtain ⟨hquery, rfl⟩ := Binding.pure_eq_ok.mp hrun
  have hleases (db : Database) : db.leasesOf query.query = .ok .empty :=
    leasesOf_of_filter (by rw [← hquery]; exact (forall₂_of_filterConditions hc).2) db
  have hcount : IgnoresLeases (Reading.database fun db => db.count query) :=
    Reading.ignoresLeases_database fun db db' ht =>
      Database.count_congr ht (hleases db) (hleases db') fun _ _ _ => rfl
  exact (Reading.ignoresLeases_connect.bind fun _ => hcount) b b' h

end EntityStore

/-! ### Candidates -/

namespace EntityStore

/-- The conditions of the query for candidates hold alike where the active leases are the same. -/
lemma holds_congr_of_unleased {α : Type} [StatefulEntity α] {s : EntityStore α} {max : UInt32}
    {filter : List Criterion} {now : Int64} {query : Select.Bound} {t t' : LeaseTable}
    (hq : Select.Bound.of (s.unleasedBinding .sqlite max filter now) = .ok query)
    (h : ∀ r, t'.active? now r = t.active? now r) :
    ∀ c ∈ query.query.conditions, ∀ r, c.holds t' query.params r = c.holds t query.params r := by
  obtain ⟨conditions, kind, place, limit, hquery, -, hmeaning, -, hplace⟩ :=
    unleasedBinding_eq_ok hq
  intro c hc r
  rw [hquery] at hc
  rcases List.mem_append.mp hc with hc | hc
  · have hany := any_isOnLeases_of_forall₂ hmeaning
    refine Condition.holds_of_not_isOnLeases ?_
    simpa using List.any_eq_false.mp hany c hc
  · cases List.mem_singleton.mp hc
    have hcell : place.cell query.params = .int now := by
      rw [Placeholder.cell, hplace]
      rfl
    rw [Condition.holds, Condition.holds, hcell, LeaseTable.isFree_congr h]

/-- The query for candidates, which looks past leases that are over. -/
theorem isBlind_unleasedCandidates {α : Type} [StatefulEntity α] (s : EntityStore α) (max : UInt32)
    (filter : List Criterion) : Reading.IsBlind (s.unleasedCandidates max filter) := by
  rw [unleasedCandidates]
  split
  · exact Reading.isBlind_pure []
  · intro b b' h
    refine Reading.bind_congr (Reading.ignoresLeases_now.isBlind b b' h) fun now hnow => ?_
    cases hnow
    refine Reading.bind_congr rfl fun query hlift => ?_
    have hq := Except.mapError_eq_ok.mp hlift
    obtain ⟨⟨t, ht⟩, t', ht'⟩ := h.leases
    -- the instant is the same on both sides, so the query asks for active leases only
    have hactive (r : Resource) : t'.active? b.clock.now r = t.active? b.clock.now r := by
      have hr := h.active? r
      rwa [Backend.active?_of_leases ht, Backend.active?_of_leases ht', h.clock] at hr
    have hleases : b.database.leasesOf query.query = .ok t := by
      rw [leasesOf_of_unleasedBinding hq, Database.leaseTable_of_leases ht]
    have hleases' : b'.database.leasesOf query.query = .ok t' := by
      rw [leasesOf_of_unleasedBinding hq, Database.leaseTable_of_leases ht']
    have hselect : Reading.database (fun db => db.select query) b' =
        Reading.database (fun db => db.select query) b := by
      rw [Reading.database, Reading.database, Database.select_congr h.tables hleases hleases'
        (holds_congr_of_unleased hq hactive)]
    exact Reading.bind_congr (Reading.ignoresLeases_connect.isBlind b b' h) fun _ _ =>
      Reading.bind_congr hselect fun _ _ => rfl

end EntityStore

end LeasedStore
