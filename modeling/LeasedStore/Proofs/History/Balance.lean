/-
Counters and tables agree: what was counted is there, or was used up.

Nobody but the calls that are counted puts entities into the tables or takes them out, so there are
as many as were created and not deleted.  A write uses up a lease that was acquired for it, so there
are no more writes than leases acquired: the leases that are still there make up for the difference,
as far as they were not given up or broken.

* `Database.rowCount`, `Database.leaseCount`: how many entities of a kind and leases on them there
  are;
* `Entry.covers`: what is counted of a call makes up for what it changes in these numbers;
* `Counters.IsBalanced`: do the counters agree with the tables?
* `History.isBalanced_of_run`: they always do;
* `History.tally_of_run`: what the counters are at the end of a history.
-/
import LeasedStore.Proofs.History.Ready
import LeasedStore.Proofs.History.Tally
import LeasedStore.Proofs.Store.Search

namespace LeasedStore

/-! ### How much there is -/

namespace Database

variable {db : Database} {t t' : Table} {lt : LeaseTable} {k k' : StoreKind} {kind : String}

/-- How many entities of a kind are stored. -/
def rowCount (db : Database) (k : StoreKind) : Nat :=
  (db.table? k.schema.mapping.table).elim 0 fun t => t.rows.length

/-- How many leases on entities of a kind there are, over or not. -/
def leaseCount (db : Database) (kind : String) : Nat := db.leases.elim 0 fun t => t.count kind

lemma rowCount_of_table? (h : db.table? k.schema.mapping.table = some t) :
    db.rowCount k = t.rows.length := by
  rw [rowCount, h]; rfl

lemma leaseCount_of_leases (h : db.leases = some lt) : db.leaseCount kind = lt.count kind := by
  rw [leaseCount, h]; rfl

/-- The numbers of entities after a table was put in place of another one. -/
lemma rowCount_put (ht : db.table? k.schema.mapping.table = some t)
    (hd : t'.definition = t.definition) (k' : StoreKind) :
    (db.put t').rowCount k' = if k = k' then t'.rows.length else db.rowCount k' := by
  have hname : t'.name = k.schema.mapping.table := by
    rw [Table.name, hd]
    exact name_of_table? ht
  split
  · next hk => rw [← hk, rowCount, ← hname, table?_put_self]; rfl
  · next hk =>
    have hne : t'.name ≠ k'.schema.mapping.table := by
      rw [hname]
      exact fun heq => hk (StoreKind.table_injective _ _ heq)
    rw [rowCount, table?_put_of_ne hne, rowCount]

/-- Does what was counted make up for a change of the tables of a kind, and of the leases on its
entities? -/
structure Covers (db : Database) (counted : List Counter) (db' : Database) (k : StoreKind) :
    Prop where
  rows : db'.rowCount k + counted.count (.mutation k.schema.kind .delete) =
    db.rowCount k + counted.count (.mutation k.schema.kind .create)
  leases : counted.count (.mutation k.schema.kind .update) +
    counted.count (.mutation k.schema.kind .delete) + db'.leaseCount k.schema.kind ≤
      db.leaseCount k.schema.kind + counted.count (.leaseAcquired k.schema.kind)

end Database

namespace LeaseManager

variable {m : LeaseManager} {id holder : String} {d : Int64} {b b' : Backend}

/-- A lease that is taken is one more at most. -/
lemma leaseCount_of_acquireIn {l : Lease} (h : (m.acquireIn id holder d).runOn b = (.ok l, b'))
    (kind : String) : b'.database.leaseCount kind ≤
      b.database.leaseCount kind + if m.resourceKind = kind then 1 else 0 := by
  obtain ⟨t, t', ht, ha, -, hdb⟩ := acquireIn_eq_ok h
  rw [hdb, Database.leaseCount_of_leases ht, LeaseTable.eq_insert_of_acquire ha]
  exact t.count_insert_le _ kind

/-- A lease that is given up is one less. -/
lemma leaseCount_of_consumeIn {u : Unit} (h : (m.consumeIn id holder).runOn b = (.ok u, b'))
    (kind : String) : (if m.resourceKind = kind then 1 else 0) + b'.database.leaseCount kind ≤
      b.database.leaseCount kind := by
  obtain ⟨t, t', ht, hc, rfl⟩ := consumeIn_eq_ok h
  obtain ⟨⟨l, hl, -⟩, rfl⟩ := LeaseTable.consume_eq_some_iff.mp hc
  rw [Database.leaseCount_of_leases ht]
  exact LeaseTable.count_erase_le hl kind

/-- There are no more leases after one was broken. -/
lemma leaseCount_of_breakLease {wasThere : Bool}
    (h : (m.breakLease id).runOn b = (.ok wasThere, b')) (kind : String) :
    b'.database.leaseCount kind ≤ b.database.leaseCount kind := by
  obtain ⟨ho, hchange⟩ := Action.connect_bind_eq_ok.mp h
  cases hl : b.database.leases with
  | none =>
      obtain ⟨db, hdb, -⟩ := Action.change_eq_ok.mp hchange
      rw [Database.leaseTable_of_none hl] at hdb
      cases hdb
  | some t =>
      rw [runOn_breakLease_of_open ho hl] at h
      cases h
      rw [Database.leaseCount_of_leases hl]
      exact t.count_erase_le_count _ kind

end LeaseManager

namespace EntityStore

variable {k : StoreKind} {s : EntityStore k.Record} {op : Mutation} {id holder : String}
  {b b' : Backend} {e : k.Record} {u : Unit}

/-- A write under a lease uses it up. -/
lemma leaseCount_of_guarded {write : Table → Except DatabaseError (Option Table)}
    (h : (s.guarded op id holder write).runOn b = (.ok u, b')) (kind : String) :
    (if k.schema.kind = kind then 1 else 0) + b'.database.leaseCount kind ≤
      b.database.leaseCount kind := by
  obtain ⟨-, lt, lt', t, t', hl, hc, -, -, hdb⟩ := guarded_eq_ok h
  obtain ⟨⟨l, hfind, -⟩, rfl⟩ := LeaseTable.consume_eq_some_iff.mp hc
  rw [hdb, Database.leaseCount_of_leases hl]
  exact LeaseTable.count_erase_le hfind kind

/-- A new entity is one more. -/
lemma rowCount_of_create (h : (s.create e).runOn b = (.ok u, b')) (k' : StoreKind) :
    b'.database.rowCount k' = b.database.rowCount k' + if k = k' then 1 else 0 := by
  obtain ⟨-, t, t', ht, hi, hdb⟩ := create_eq_ok h
  obtain ⟨hd, hr⟩ := Table.rows_of_insert hi
  rw [hdb, Database.rowCount_put ht hd]
  split
  · next hk => rw [← hk, Database.rowCount_of_table? ht, hr, List.length_append]; rfl
  · rfl

/-- An entity that is overwritten is none more and none less. -/
lemma rowCount_of_update (h : (s.update e holder).runOn b = (.ok u, b')) (k' : StoreKind) :
    b'.database.rowCount k' = b.database.rowCount k' := by
  obtain ⟨-, lt, lt', t, t', -, -, ht, hw, hdb⟩ := guarded_eq_ok h
  obtain ⟨hd, hr⟩ := Table.rows_of_replace hw
  have ht' : (b.database.putLeases lt').table? k.schema.mapping.table = some t := ht
  rw [hdb, Database.rowCount_put ht' hd]
  split
  · next hk => rw [← hk, Database.rowCount_of_table? ht, hr, Table.overwrite, List.length_map]
  · rfl

/-- An entity that is removed is one less. -/
lemma rowCount_of_delete (h : (s.delete id holder).runOn b = (.ok u, b')) (k' : StoreKind) :
    b'.database.rowCount k' + (if k = k' then 1 else 0) = b.database.rowCount k' := by
  obtain ⟨-, lt, lt', t, t', -, -, ht, hw, hdb⟩ := guarded_eq_ok h
  have herase := Except.ok.inj hw
  have ht' : (b.database.putLeases lt').table? k.schema.mapping.table = some t := ht
  rw [hdb, Database.rowCount_put ht' (Table.rows_of_erase herase).1]
  split
  · next hk => rw [← hk, Database.rowCount_of_table? ht, Table.length_of_erase herase]
  · rfl

end EntityStore

/-! ### One call -/

namespace LeaseManager

variable {k : StoreKind} {kind : String} {b b' : Backend} {a : LeaseAnswer}

/-- There is one lease more at most after a call of a lease manager, if it took one. -/
lemma leaseCount_of_step {m : LeaseManager} (hm : m.resourceKind = k.schema.kind) {l : LeaseStep}
    (h : (m.step l).runOn b = (.ok a, b')) : b'.database.leaseCount kind ≤
      b.database.leaseCount kind + (l.purpose k).won?.toList.count (.leaseAcquired kind) := by
  cases l with
  | acquire id holder =>
      obtain ⟨l, hl, -⟩ := Action.bind_pure_eq_ok h
      have hle := leaseCount_of_acquireIn (Action.connect_bind_eq_ok.mp hl).2 kind
      simpa [LeaseStep.purpose, Purpose.won?, StoreKind.resource, List.count_singleton,
        hm] using hle
  | acquireFor id holder d =>
      obtain ⟨l, hl, -⟩ := Action.bind_pure_eq_ok h
      have hle := leaseCount_of_acquireIn (Action.connect_bind_eq_ok.mp hl).2 kind
      simpa [LeaseStep.purpose, Purpose.won?, StoreKind.resource, List.count_singleton,
        hm] using hle
  | release id holder =>
      obtain ⟨u, hu, -⟩ := Action.bind_pure_eq_ok h
      have hle := leaseCount_of_consumeIn (Action.connect_bind_eq_ok.mp hu).2 kind
      exact (Nat.le_of_add_left_le hle).trans (Nat.le_add_right _ _)
  | find id =>
      obtain ⟨l, hf, -⟩ := Action.bind_pure_eq_ok h
      rw [Action.eq_of_read hf]
      exact Nat.le_add_right _ _
  | breakLease id =>
      obtain ⟨wasThere, hb, -⟩ := Action.bind_pure_eq_ok h
      exact (leaseCount_of_breakLease hb kind).trans (Nat.le_add_right _ _)

/-- So there is after one inside a transaction. -/
lemma leaseCount_of_call {m : LeaseManager} (hm : m.resourceKind = k.schema.kind) {l : LeaseCall}
    (h : (m.call l).runOn b = (.ok a, b')) : b'.database.leaseCount kind ≤
      b.database.leaseCount kind + (l.purpose k).won?.toList.count (.leaseAcquired kind) := by
  cases l with
  | acquire id holder d =>
      obtain ⟨l, hl, -⟩ := Action.bind_pure_eq_ok h
      have hle := leaseCount_of_acquireIn hl kind
      simpa [LeaseCall.purpose, Purpose.won?, StoreKind.resource, List.count_singleton,
        hm] using hle
  | consume id holder =>
      obtain ⟨u, hu, -⟩ := Action.bind_pure_eq_ok h
      have hle := leaseCount_of_consumeIn hu kind
      exact (Nat.le_of_add_left_le hle).trans (Nat.le_add_right _ _)
  | describe id =>
      obtain ⟨l, hf, -⟩ := Action.bind_pure_eq_ok h
      rw [Action.eq_of_read hf]
      exact Nat.le_add_right _ _

end LeaseManager

lemma Purpose.count_mutation (p : Purpose) (kind : String) (op : Mutation) :
    p.won?.toList.count (.mutation kind op) = 0 := by
  cases p <;> rfl

/-- What is counted makes up for the change of the tables if it is a lease taken at most, and the
tables of entities did not change. -/
lemma Database.Covers.of_purpose {db db' : Database} {k : StoreKind} {p : Purpose}
    (ht : db'.tables = db.tables) (hl : db'.leaseCount k.schema.kind ≤
      db.leaseCount k.schema.kind + p.won?.toList.count (.leaseAcquired k.schema.kind)) :
    db.Covers p.won?.toList db' k where
  rows := by rw [rowCount, rowCount, table?, table?, ht, p.count_mutation, p.count_mutation]
  leases := by rwa [p.count_mutation, p.count_mutation, Nat.zero_add]

namespace EntityStore

variable {k k' : StoreKind} {s : EntityStore k.Record} {call : StoreStep k.Record}
  {b b' : Backend} {a : StoreAnswer k.Record}

/-- What is counted of a call of a store that succeeds makes up for the change of the tables. -/
lemma covers_of_step (h : (s.step call).runOn b = (.ok a, b')) (k' : StoreKind) :
    b.database.Covers (Call.store k call).won?.toList b'.database k' := by
  -- calls of other kinds count nothing for this one, since different kinds have different names
  have hkind : k.schema.kind = k'.schema.kind ↔ k = k' := ⟨k.name_injective k', fun h => h ▸ rfl⟩
  cases call with
  | create e =>
      obtain ⟨u, hu, -⟩ := Action.bind_pure_eq_ok h
      obtain ⟨-, t, t', -, -, hdb⟩ := create_eq_ok hu
      have hrows := rowCount_of_create hu k'
      have hleases : b'.database.leaseCount k'.schema.kind =
          b.database.leaseCount k'.schema.kind := by rw [hdb]; rfl
      constructor
      · simp [Call.won?, Call.mutation?, StoreStep.mutation?, List.count_singleton, hkind, hrows]
      · simp [Call.won?, Call.mutation?, StoreStep.mutation?, hleases]
  | update e holder =>
      obtain ⟨u, hu, -⟩ := Action.bind_pure_eq_ok h
      have hrows := rowCount_of_update hu k'
      have hleases := leaseCount_of_guarded hu k'.schema.kind
      constructor
      · simpa [Call.won?, Call.mutation?, StoreStep.mutation?, List.count_singleton,
          hkind] using hrows
      · simpa [Call.won?, Call.mutation?, StoreStep.mutation?, List.count_singleton] using hleases
  | delete id holder =>
      obtain ⟨u, hu, -⟩ := Action.bind_pure_eq_ok h
      have hrows := rowCount_of_delete hu k'
      have hleases := leaseCount_of_guarded hu k'.schema.kind
      constructor
      · simpa [Call.won?, Call.mutation?, StoreStep.mutation?, List.count_singleton,
          hkind] using hrows
      · simpa [Call.won?, Call.mutation?, StoreStep.mutation?, List.count_singleton] using hleases
  | lease l =>
      obtain ⟨answer, hl, -⟩ := Action.bind_pure_eq_ok h
      exact .of_purpose (LeaseManager.keepsEntities_of_step hl).tables
        (LeaseManager.leaseCount_of_step rfl hl)
  -- all that is left only reads
  | _ =>
      obtain ⟨y, hy, -⟩ := Action.bind_pure_eq_ok h
      rw [Action.eq_of_read hy]
      exact .of_purpose (p := .other) rfl (Nat.le_add_right _ _)

end EntityStore

namespace Entry

/-- What is counted of a call makes up for the change of the tables. -/
theorem covers (x : Entry) (k : StoreKind) :
    x.before.database.Covers x.counted x.after.database k := by
  cases hans : x.answer with
  | error e =>
      -- of what fails only conflicts are counted
      have hcount (c : Counter) (hc : ∀ kind, c ≠ .leaseConflict kind) : x.counted.count c = 0 := by
        refine List.count_eq_zero.mpr fun hmem => ?_
        obtain ⟨-, hlost⟩ := (counts_of_error hans).mp ((x.counts_iff c).mpr hmem)
        obtain ⟨kind, heq, -⟩ := Purpose.lost?_eq_some_iff.mp hlost
        exact hc kind heq
      rw [database_of_error hans]
      constructor
      · rw [hcount _ (by simp), hcount _ (by simp)]
      · rw [hcount _ (by simp), hcount _ (by simp)]
        omega
  | ok answer =>
      have ho := x.outcome_eq
      have hcounted : x.counted = x.call.won?.toList := by rw [counted, hans, tally]
      rw [hans] at ho
      rw [hcounted]
      obtain ⟨c, call, b⟩ := x
      cases call with
      | store k' s =>
          obtain ⟨a, ha, -⟩ := Action.bind_pure_eq_ok ho
          exact EntityStore.covers_of_step ha k
      | candidates k' max filter =>
          obtain ⟨y, hy, -⟩ := Action.bind_pure_eq_ok ho
          obtain ⟨es, hes, -⟩ := Action.bind_pure_eq_ok hy
          rw [Action.eq_of_read hes]
          exact .of_purpose (p := .other) rfl (Nat.le_add_right _ _)
      | within k' l =>
          obtain ⟨-, ho⟩ := Action.connect_bind_eq_ok.mp ho
          obtain ⟨a, ha, -⟩ := Action.bind_pure_eq_ok ho
          exact .of_purpose (LeaseManager.keepsEntities_of_call ha).tables
            (LeaseManager.leaseCount_of_call rfl ha)
      | advance d => exact .of_purpose (p := .other) rfl (Nat.le_add_right _ _)
      | setClock millis => exact .of_purpose (p := .other) rfl (Nat.le_add_right _ _)

end Entry

/-! ### Many calls -/

/-- Do the counters agree with the tables about the entities of a kind? -/
structure Counters.IsBalanced (cs : Counters) (db : Database) (k : StoreKind) : Prop where
  /-- There are as many entities as were created and not deleted. -/
  rows : cs.get (.mutation k.schema.kind .create) =
    cs.get (.mutation k.schema.kind .delete) + db.rowCount k
  /-- Leases that are there, and writes, which used one up, were acquired. -/
  leases : cs.get (.mutation k.schema.kind .update) + cs.get (.mutation k.schema.kind .delete) +
    db.leaseCount k.schema.kind ≤ cs.get (.leaseAcquired k.schema.kind)

namespace Counters.IsBalanced

variable {cs cs' : Counters} {db db' : Database} {k : StoreKind} {b₀ b : Backend}

/-- Counters go on to agree with the tables if what is counted makes up for the change. -/
lemma of_covers {counted : List Counter} (h : cs.IsBalanced db k)
    (he : cs'.events = counted ++ cs.events) (hc : db.Covers counted db' k) :
    cs'.IsBalanced db' k := by
  have hget (c : Counter) : cs'.get c = counted.count c + cs.get c := by
    rw [get, he, List.count_append, get]
  obtain ⟨hrows, hleases⟩ := h
  obtain ⟨hrows', hleases'⟩ := hc
  constructor <;> simp only [hget] <;> omega

/-- So they do over any number of calls. -/
lemma of_chained {past : List Entry} (hc : Chained b₀ past b)
    (h : b₀.counters.IsBalanced b₀.database k) : b.counters.IsBalanced b.database k := by
  induction past generalizing b with
  | nil =>
      cases hc
      exact h
  | cons x rest ih =>
      obtain ⟨rfl, hc⟩ := hc
      exact (ih hc).of_covers x.events_after (x.covers k)

lemma founded (now : Int64) (k : StoreKind) :
    (Backend.founded now).counters.IsBalanced (Backend.founded now).database k where
  rows := by rw [Database.rowCount_of_table? (Backend.table?_founded now k)]; rfl
  leases := by rw [Database.leaseCount_of_leases (Backend.leases_founded now)]; rfl

end Counters.IsBalanced

lemma EntityStore.count_nil {k : StoreKind} {b : Backend} (s : EntityStore k.Record)
    (hb : b.IsReady k) : s.count [] b = .ok (b.database.rowCount k) := by
  obtain ⟨t, ht, -⟩ := hb.table
  rw [Database.rowCount_of_table? ht]
  exact s.count_nil_of_table? hb.isOpen ht

namespace History

variable {h h' : History} {k : StoreKind}

/-- Do the counters agree with the tables, and with those that an open transaction would go back
to? -/
structure IsBalanced (h : History) (k : StoreKind) : Prop where
  present : h.backend.counters.IsBalanced h.backend.database k
  saved : ∀ s ∈ h.saved, h.backend.counters.IsBalanced s.1 k

/-- Calls inside a transaction count nothing but leases, and none of these is there any more if they
are undone. -/
lemma isBalanced_of_within {p : ControlPlane} {k' : StoreKind} {l : LeaseCall} {b : Backend}
    {db : Database} (h : b.counters.IsBalanced db k) :
    (⟨p, .within k' l, b⟩ : Entry).after.counters.IsBalanced db k := by
  have hzero (op : Mutation) : (⟨p, .within k' l, b⟩ : Entry).counted.count
      (.mutation k.schema.kind op) = 0 := by
    refine List.count_eq_zero.mpr fun hmem => ?_
    have hmutates : Entry.Mutates _ _ _ := (Entry.counts_iff _ _).mpr hmem
    cases hmutates.1
  refine h.of_covers (Entry.events_after _) ⟨?_, ?_⟩
  · rw [hzero, hzero]
  · rw [hzero, hzero]
    omega

/-- The counters go on to agree with the tables. -/
lemma IsBalanced.next (hb : h.IsBalanced k) {m : Move} (hm : h.next m = some h') :
    h'.IsBalanced k := by
  cases m with
  | step p s =>
      rw [History.next] at hm
      split at hm
      · next hturn =>
        cases hm
        refine ⟨hb.present.of_chained (chained_entries p s h.backend), fun saved hs => ?_⟩
        -- while a transaction is open only the clock moves
        have hmove : s.isClockMove = true := by
          cases hsaved : h.saved <;> simp_all
        have hcounters : ((p.step s).runOn h.backend).2.counters = h.backend.counters := by
          cases s <;> first | rfl | cases hmove
        rw [hcounters]
        exact hb.saved saved hs
      · cases hm
  | begin =>
      rw [History.next] at hm
      split at hm <;> cases hm
      exact ⟨hb.present, fun s hs => by cases hs; exact hb.present⟩
  | within p k' l =>
      rw [History.next] at hm
      split at hm <;> cases hm
      let x : Entry := ⟨p, .within k' l, h.backend⟩
      exact ⟨hb.present.of_covers x.events_after (x.covers k),
        fun s hs => isBalanced_of_within (hb.saved s hs)⟩
  | commit =>
      rw [History.next] at hm
      split at hm <;> cases hm
      exact ⟨hb.present, fun s hs => by cases hs⟩
  | rollback =>
      obtain ⟨s, hs, rfl⟩ := Option.map_eq_some_iff.mp hm
      exact ⟨hb.saved s hs, fun s' hs' => by cases hs'⟩

/-- The counters go on to agree with the tables over any moves. -/
lemma IsBalanced.run (hb : h.IsBalanced k) {moves : List Move}
    (hr : History.run moves h = some h') : h'.IsBalanced k := by
  induction moves generalizing h with
  | nil =>
      cases hr
      exact hb
  | cons m rest ih =>
      obtain ⟨h₁, hm, hr⟩ := Option.bind_eq_some_iff.mp hr
      exact ih (hb.next hm) hr

theorem isBalanced_of_run {now : Int64} {moves : List Move}
    (hr : run moves (.start (.founded now)) = some h) (k : StoreKind) : h.IsBalanced k :=
  IsBalanced.run ⟨.founded now k, fun s hs => by cases hs⟩ hr

/-- Every counter has gone up by the number of calls that it counts.  If there was nothing in the
tables at the beginning, there are as many entities as were created and not deleted, and no more
updates and deletions than leases acquired. -/
theorem tally_of_run {b₀ : Backend} {moves : List Move}
    (hr : run moves (.start b₀) = some h) :
    (∀ c : Counter, h.backend.counters.get c =
      b₀.counters.get c + (calls moves (.start b₀)).countP fun x => x.Counts c) ∧
    ∀ now, b₀ = .founded now → ∀ (p : ControlPlane) (k : StoreKind),
      ∃ n, (p.store k).count [] h.backend = .ok n ∧
        h.backend.counters.get (.mutation k.schema.kind .create) =
          h.backend.counters.get (.mutation k.schema.kind .delete) + n ∧
        h.backend.counters.get (.mutation k.schema.kind .update) +
          h.backend.counters.get (.mutation k.schema.kind .delete) ≤
            h.backend.counters.get (.leaseAcquired k.schema.kind) := by
  refine ⟨counters_of_run hr, ?_⟩
  rintro now rfl p k
  obtain ⟨hrows, hleases⟩ := (isBalanced_of_run hr k).present
  exact ⟨_, (p.store k).count_nil (isReady_of_run hr k), hrows, Nat.le_of_add_right_le hleases⟩

/-- A policy is created, and once more in vain; a lease on it is taken and given back with the
transaction that it was taken in, and then taken for good; somebody else is refused the lease and
the deletion, before the policy is deleted.  Two leases were acquired and two refused, one policy
was created and one deleted, and none is left. -/
theorem tally_of_rolled_back_lease :
    let p : ControlPlane := ⟨"here", 1000, 10⟩
    let k : StoreKind := .policyDefinition
    let policy : k.Record := PolicyDefinition.mk "p" (.ofJson .null) 7
    let moves : List Move :=
      [.step p (.store k (.create policy)), .step p (.store k (.create policy)),
        .begin, .within p k (.acquire "p" "a" 5), .rollback,
        .step p (.store k (.lease (.acquire "p" "a"))),
        .step p (.store k (.lease (.acquire "p" "b"))),
        .step p (.store k (.delete "p" "b")), .step p (.store k (.delete "p" "a"))]
    ∃ h, run moves (.start (.founded 0)) = some h ∧
      h.backend.counters.get (.leaseAcquired k.schema.kind) = 2 ∧
      h.backend.counters.get (.leaseConflict k.schema.kind) = 2 ∧
      h.backend.counters.get (.mutation k.schema.kind .create) = 1 ∧
      h.backend.counters.get (.mutation k.schema.kind .delete) = 1 ∧
      (p.store k).count [] h.backend = .ok 0 := by
  intro p k policy moves
  obtain ⟨h, hr⟩ : ∃ h, run moves (.start (.founded 0)) = some h := ⟨_, rfl⟩
  obtain ⟨hcounts, hempty⟩ := tally_of_run hr
  have hcreated : h.backend.counters.get (.mutation k.schema.kind .create) = 1 :=
    (hcounts _).trans (by decide +kernel)
  have hdeleted : h.backend.counters.get (.mutation k.schema.kind .delete) = 1 :=
    (hcounts _).trans (by decide +kernel)
  obtain ⟨n, hn, hrows, -⟩ := hempty 0 rfl p k
  refine ⟨h, hr, (hcounts _).trans (by decide +kernel), (hcounts _).trans (by decide +kernel),
    hcreated, hdeleted, ?_⟩
  rw [hcreated, hdeleted] at hrows
  obtain rfl : n = 0 := by omega
  exact hn

end History

end LeasedStore
