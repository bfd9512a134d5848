/-
What the calls of a store about single entities answer and what they leave behind.

A write under a lease goes through one of a few cases: the lease is refused, there is no row to
write, or the row is written and the lease used up.  Whatever fails changes no table.

* `runOn_guarded_of_refused`, `runOn_guarded_of_absent`, `runOn_guarded_of_written`: these cases;
* `guarded_eq_ok`: what there was if a write succeeds, and what there is afterwards;
* `create_eq_ok`: the same for a new entity;
* `database_of_guarded_error`, `database_of_create_error`: failures change no table.
-/
import LeasedStore.Store.Basic
import LeasedStore.Proofs.Lease.Manager
import LeasedStore.Proofs.Entity.Lawful

namespace LeasedStore

namespace Database

@[simp]
lemma table?_putLeases (db : Database) (lt : LeaseTable) (name : String) :
    (db.putLeases lt).table? name = db.table? name := rfl

@[simp]
lemma leases_put (db : Database) (t : Table) : (db.put t).leases = db.leases := rfl

@[simp]
lemma lease?_put (db : Database) (t : Table) (r : Resource) :
    (db.put t).lease? r = db.lease? r := rfl

end Database

namespace EntityStore

variable {α : Type} [Entity α] {s : EntityStore α} {op : Mutation} {id holder : String}
  {b b' : Backend} {lt lt' : LeaseTable} {t t' : Table}
  {write : Table → Except DatabaseError (Option Table)}

@[simp]
lemma leases_resource (s : EntityStore α) (id : String) : s.leases.resource id = ⟨s.kind, id⟩ := rfl

/-! ### Writes of the table -/

lemma table_of_some {db : Database} (ht : db.table? s.mapping.table = some t) :
    s.table db = .ok t :=
  Database.table_of_table? ht

lemma table_of_none {db : Database} (ht : db.table? s.mapping.table = none) :
    s.table db = .error (.noSuchTable s.mapping.table) :=
  Database.table_of_none ht

/-- Nothing is written where there is no table. -/
lemma writeTable_of_no_table {db : Database} (ht : db.table? s.mapping.table = none) :
    s.writeTable write db = .error (.noSuchTable s.mapping.table) := by
  rw [writeTable, table_of_none ht]
  rfl

/-- A row that is written. -/
lemma writeTable_of_some {db : Database} (ht : db.table? s.mapping.table = some t)
    (hw : write t = .ok (some t')) : s.writeTable write db = .ok (true, db.put t') := by
  rw [writeTable, table_of_some ht]
  change (write t >>= _) = _
  rw [hw]
  rfl

/-- No row to write. -/
lemma writeTable_of_none {db : Database} (ht : db.table? s.mapping.table = some t)
    (hw : write t = .ok none) : s.writeTable write db = .ok (false, db) := by
  rw [writeTable, table_of_some ht]
  change (write t >>= _) = _
  rw [hw]
  rfl

/-- A write goes through if the table is there and takes it. -/
lemma writeTable_eq_ok {db db' : Database} {wrote : Bool}
    (h : s.writeTable write db = .ok (wrote, db')) :
    ∃ t, db.table? s.mapping.table = some t ∧
      ((∃ t', write t = .ok (some t') ∧ wrote = true ∧ db' = db.put t') ∨
        (write t = .ok none ∧ wrote = false ∧ db' = db)) := by
  obtain ⟨t, ht, h⟩ := Except.bind_eq_ok.mp h
  obtain ⟨w, hw, h⟩ := Except.bind_eq_ok.mp h
  refine ⟨t, Database.table_eq_ok.mp ht, ?_⟩
  cases w with
  | none => cases h; exact .inr ⟨hw, rfl, rfl⟩
  | some t' => cases h; exact .inl ⟨t', hw, rfl, rfl⟩

/-! ### Writes under a lease -/

/-- A write of somebody who holds no active lease is refused. -/
lemma runOn_guarded_of_refused (ho : b.isOpen = true) (hl : b.database.leases = some lt)
    (hc : lt.consume b.clock.now (s.leases.resource id) holder = none) :
    (s.guarded op id holder write).runOn b =
      (.error (s.leases.refusal id b), s.leases.refused b) := by
  refine Action.runOn_bind_of_error ?_ _
  rw [Action.runOn_transaction_of_open ho,
    Action.runOn_bind_of_error (LeaseManager.runOn_consumeIn_of_refused hl hc)]
  rfl

/-- A write of an entity that does not exist fails, and the lease is given back. -/
lemma runOn_guarded_of_absent (ho : b.isOpen = true) (hl : b.database.leases = some lt)
    (hc : lt.consume b.clock.now (s.leases.resource id) holder = some lt')
    (ht : b.database.table? s.mapping.table = some t) (hw : write t = .ok none) :
    (s.guarded op id holder write).runOn b = (.error (.notFound id), b) := by
  have hchange : (Action.change (s.writeTable write)).runOn
      { b with database := b.database.putLeases lt' } =
        (.ok false, { b with database := b.database.putLeases lt' }) :=
    Action.runOn_change_of_ok (writeTable_of_none ht hw)
  refine Action.runOn_bind_of_error ?_ _
  rw [Action.runOn_transaction_of_open ho,
    Action.runOn_bind_of_ok (LeaseManager.runOn_consumeIn_of_held hl hc),
    Action.runOn_bind_of_ok hchange]
  rfl

/-- A write under an active lease uses the lease up. -/
lemma runOn_guarded_of_written (ho : b.isOpen = true) (hl : b.database.leases = some lt)
    (hc : lt.consume b.clock.now (s.leases.resource id) holder = some lt')
    (ht : b.database.table? s.mapping.table = some t) (hw : write t = .ok (some t')) :
    (s.guarded op id holder write).runOn b =
      (.ok (), { b with
        database := (b.database.putLeases lt').put t'
        counters := b.counters.bump (.mutation s.kind op) }) := by
  have hchange : (Action.change (s.writeTable write)).runOn
      { b with database := b.database.putLeases lt' } =
        (.ok true, { b with database := (b.database.putLeases lt').put t' }) :=
    Action.runOn_change_of_ok (writeTable_of_some ht hw)
  rw [guarded, Action.runOn_bind, Action.runOn_transaction_of_open ho,
    Action.runOn_bind_of_ok (LeaseManager.runOn_consumeIn_of_held hl hc),
    Action.runOn_bind_of_ok hchange]
  rfl

/-- What there was if a write under a lease succeeds, and what there is afterwards. -/
lemma guarded_eq_ok {u : Unit} (h : (s.guarded op id holder write).runOn b = (.ok u, b')) :
    b.isOpen = true ∧ ∃ lt lt' t t', b.database.leases = some lt ∧
      lt.consume b.clock.now (s.leases.resource id) holder = some lt' ∧
      b.database.table? s.mapping.table = some t ∧ write t = .ok (some t') ∧
      b'.database = (b.database.putLeases lt').put t' := by
  obtain ⟨_, b₁, htx, hbump⟩ := Action.bind_eq_ok.mp h
  obtain ⟨ho, hwork⟩ := Action.transaction_eq_ok.mp htx
  obtain ⟨_, b₂, hcons, hwork⟩ := Action.bind_eq_ok.mp hwork
  obtain ⟨lt, lt', hl, hc, rfl⟩ := LeaseManager.consumeIn_eq_ok hcons
  obtain ⟨wrote, b₃, hchange, hwork⟩ := Action.bind_eq_ok.mp hwork
  obtain ⟨db, hdb, rfl⟩ := Action.change_eq_ok.mp hchange
  obtain ⟨t, ht, ⟨t', hw, rfl, rfl⟩ | ⟨-, rfl, -⟩⟩ := writeTable_eq_ok hdb
  · cases hwork
    cases hbump
    exact ⟨ho, lt, lt', t, t', hl, hc, ht, hw, rfl⟩
  · cases hwork

/-- A write under a lease is that of its holder. -/
lemma held_of_guarded {u : Unit} (h : (s.guarded op id holder write).runOn b = (.ok u, b')) :
    ∃ current, b.database.lease? ⟨s.kind, id⟩ = some current ∧
      current.IsActive b.clock.now ∧ current.leasedBy = holder := by
  obtain ⟨-, lt, lt', t, t', hl, hc, -⟩ := guarded_eq_ok h
  rw [Database.lease?_of_leases hl]
  exact (LeaseTable.consume_eq_some_iff.mp hc).1

/-- A write under a lease uses it up and leaves the others alone. -/
lemma lease?_of_guarded {u : Unit} (h : (s.guarded op id holder write).runOn b = (.ok u, b'))
    (r : Resource) :
    b'.database.lease? r = if ⟨s.kind, id⟩ = r then none else b.database.lease? r := by
  obtain ⟨-, lt, lt', t, t', hl, hc, -, -, hdb⟩ := guarded_eq_ok h
  rw [hdb, Database.lease?_put, Database.lease?_putLeases,
    (LeaseTable.consume_eq_some_iff.mp hc).2, LeaseTable.find?_erase,
    Database.lease?_of_leases hl, leases_resource]

/-- A write under a lease that fails changes no table. -/
lemma database_of_guarded_error {e : StoreError}
    (h : (s.guarded op id holder write).runOn b = (.error e, b')) :
    b'.database = b.database := by
  rw [guarded, Action.runOn_bind] at h
  cases ho : b.isOpen with
  | false =>
      rw [Action.runOn_transaction_of_closed ho] at h
      cases h
      rfl
  | true =>
      rw [Action.runOn_transaction_of_open ho] at h
      split at h
      · cases h
      · next heq =>
        split at heq
        · cases heq
        · cases heq
          cases h
          rfl

/-- A write under a lease keeps the setting. -/
lemma keepsSetting_guarded (s : EntityStore α) (op : Mutation) (id holder : String)
    (write : Table → Except DatabaseError (Option Table)) :
    (s.guarded op id holder write).KeepsSetting := by
  refine Action.KeepsSetting.bind (Action.KeepsSetting.transaction ?_) fun _ =>
    Action.keepsSetting_bump _
  refine (LeaseManager.keepsSetting_consumeIn _ id holder).bind fun _ =>
    (Action.keepsSetting_change _).bind fun wrote => ?_
  cases wrote with
  | false => exact Action.keepsSetting_throw _
  | true => exact Action.keepsSetting_pure _

/-! ### New entities -/

lemma insertRow_of_no_table {db : Database} {e : α} (ht : db.table? s.mapping.table = none) :
    s.insertRow e db = .error (.noSuchTable s.mapping.table) := by
  rw [insertRow, table_of_none ht]
  rfl

/-- A row that is put in. -/
lemma insertRow_of_ok {db : Database} {e : α} (ht : db.table? s.mapping.table = some t)
    (hi : t.insert (t.definition.row (Entity.params e)) = .ok t') :
    s.insertRow e db = .ok ((), db.put t') := by
  rw [insertRow, table_of_some ht]
  change (t.insert _ >>= _) = _
  rw [hi]
  rfl

/-- A row that is refused. -/
lemma insertRow_of_error {db : Database} {e : α} {report : DatabaseError}
    (ht : db.table? s.mapping.table = some t)
    (hi : t.insert (t.definition.row (Entity.params e)) = .error report) :
    s.insertRow e db = .error report := by
  rw [insertRow, table_of_some ht]
  change (t.insert _ >>= _) = _
  rw [hi]
  rfl

/-- A row is put in if the table is there and takes it. -/
lemma insertRow_eq_ok {db db' : Database} {e : α} {u : Unit}
    (h : s.insertRow e db = .ok (u, db')) :
    ∃ t t', db.table? s.mapping.table = some t ∧
      t.insert (t.definition.row (Entity.params e)) = .ok t' ∧ db' = db.put t' := by
  obtain ⟨t, ht, h⟩ := Except.bind_eq_ok.mp h
  obtain ⟨t', hi, h⟩ := Except.bind_eq_ok.mp h
  cases h
  exact ⟨t, t', Database.table_eq_ok.mp ht, hi, rfl⟩

/-- A new entity whose row is put in. -/
lemma runOn_create_of_ok {e : α} (ho : b.isOpen = true)
    (ht : b.database.table? s.mapping.table = some t)
    (hi : t.insert (t.definition.row (Entity.params e)) = .ok t') :
    (s.create e).runOn b =
      (.ok (), { b with
        database := b.database.put t'
        counters := b.counters.bump (.mutation s.kind .create) }) := by
  rw [create, Action.runOn_connect_bind_of_open ho, Action.runOn_bind, Action.runOn_attempt,
    Action.runOn_change_of_ok (insertRow_of_ok ht hi)]
  rfl

/-- A new entity whose id is taken. -/
lemma runOn_create_of_taken {e : α} (ho : b.isOpen = true)
    (ht : b.database.table? s.mapping.table = some t)
    (hi : t.insert (t.definition.row (Entity.params e)) = .error t.duplicate) :
    (s.create e).runOn b = (.error (.duplicateId (Entity.id e)), b) := by
  rw [create, Action.runOn_connect_bind_of_open ho, Action.runOn_bind, Action.runOn_attempt,
    Action.runOn_change_of_error (insertRow_of_error ht hi)]
  rfl

/-- What there was if a new entity is put in, and what there is afterwards. -/
lemma create_eq_ok {e : α} {u : Unit} (h : (s.create e).runOn b = (.ok u, b')) :
    b.isOpen = true ∧ ∃ t t', b.database.table? s.mapping.table = some t ∧
      t.insert (t.definition.row (Entity.params e)) = .ok t' ∧
      b'.database = b.database.put t' := by
  obtain ⟨ho, h⟩ := Action.connect_bind_eq_ok.mp h
  obtain ⟨r, b₁, htry, h⟩ := Action.bind_eq_ok.mp h
  rw [Action.runOn_attempt] at htry
  cases htry
  refine ⟨ho, ?_⟩
  rcases hr : (Action.change (s.insertRow e)).runOn b with ⟨report | u', b₂⟩ <;> rw [hr] at h
  · cases report with
    | database report =>
        dsimp only at h
        split at h <;> cases h
    | _ => cases h
  · obtain ⟨db, hdb, rfl⟩ := Action.change_eq_ok.mp hr
    obtain ⟨t, t', ht, hi, rfl⟩ := insertRow_eq_ok hdb
    cases h
    exact ⟨t, t', ht, hi, rfl⟩

/-- A new entity that is refused changes no table. -/
lemma database_of_create_error {e : α} {report : StoreError}
    (h : (s.create e).runOn b = (.error report, b')) : b'.database = b.database := by
  refine Action.database_of_connect_bind_error (fun h => ?_) h
  rw [Action.runOn_bind, Action.runOn_attempt] at h
  cases hi : s.insertRow e b.database with
  | error r =>
      rw [Action.runOn_change_of_error hi] at h
      dsimp only at h
      split at h <;> cases h <;> rfl
  | ok p =>
      rw [Action.runOn_change_of_ok hi] at h
      cases h

/-- Creating an entity keeps the setting. -/
lemma keepsSetting_create (s : EntityStore α) (e : α) : (s.create e).KeepsSetting := by
  refine (Action.keepsSetting_read _).bind fun _ =>
    ((Action.keepsSetting_change _).attempt).bind fun r => ?_
  cases r with
  | ok u => exact Action.keepsSetting_bump _
  | error report =>
      cases report with
      | database report =>
          dsimp only
          split <;> exact Action.keepsSetting_throw _
      | _ => exact Action.keepsSetting_throw _

end EntityStore

end LeasedStore
