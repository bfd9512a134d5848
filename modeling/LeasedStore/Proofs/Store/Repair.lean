/-
Damaged rows, the calls that do not mind them and the update that repairs them.

A row can hold anything but in the column of its id.  Only a look-up of its id and queries read what
is in it; all other calls tell rows by their keys.  An update assigns every other column, so it
leaves nothing of what was there.

* `Backend.put`: a backend with another content of a table;
* `Table.find?_replace_of_ne`, `isSome_find?_replace`, `erase_replace`: tables that differ in one
  row;
* `EntityStore.AnswersAlike`: are all calls answered alike but those that read one row?
* `EntityStore.answersAlike_put`: they are if the row of an id is another one;
* `EntityStore.IsRestored`: is an entity stored as if it had just been created?
* `EntityStore.isRestored_of_damaged`: it is after an update, whatever was stored before.
-/
import LeasedStore.Proofs.Entity.Faithful
import LeasedStore.Proofs.Lease.Active
import LeasedStore.Proofs.Sql.RowStatements
import LeasedStore.Proofs.Store.Search

namespace LeasedStore

/-! ### Tables that differ in one row -/

namespace Table

variable {t t' : Table} {r x : Row} {key key' : Cell}

/-- Two tables are equal if their definitions and their rows are. -/
lemma eq_of_rows (hd : t'.definition = t.definition) (hr : t'.rows = t.rows) : t' = t := by
  obtain ⟨d, rows, hn⟩ := t
  obtain ⟨d', rows', hn'⟩ := t'
  obtain rfl : d' = d := hd
  obtain rfl : rows' = rows := hr
  rfl

lemma find?_replace_of_ne (h : t.replace r = .ok (some t')) (hk : t.key? r = some key)
    (hne : key' ≠ key) : t'.find? key' = t.find? key' := by
  obtain ⟨hd, hr⟩ := rows_of_replace h
  rw [find?_replaced hd hr, hk, if_neg fun heq => hne (Option.some.inj heq).symm]

/-- There are rows under the same keys. -/
lemma isSome_find?_replace (h : t.replace r = .ok (some t')) (key : Cell) :
    (t'.find? key).isSome = (t.find? key).isSome := by
  obtain ⟨hd, hr⟩ := rows_of_replace h
  rw [find?_replaced hd hr]
  split
  · rw [Option.isSome_map]
  · rfl

lemma length_replace (h : t.replace r = .ok (some t')) : t'.rows.length = t.rows.length := by
  rw [(rows_of_replace h).2, overwrite, List.length_map]

/-- Without the row under a key it makes no difference what the row was. -/
lemma without_overwrite {d : TableDef} (hk : d.key? r = some key) (rows : List Row) :
    without d key (overwrite d r rows) = without d key rows := by
  induction rows with
  | nil => rfl
  | cons x rest ih =>
      rw [overwrite, List.map_cons, ← overwrite, without, without, List.filter_cons,
        List.filter_cons, ← without, ← without, ih]
      by_cases hx : d.key? x = some key
      · simp [hx, hk]
      · have hhead : ¬ ((d.key? x).isSome ∧ d.key? x = d.key? r) := fun h => hx (h.2.trans hk)
        simp only [if_neg hhead]

/-- Nothing differs once the row is taken out. -/
lemma erase_replace (h : t.replace r = .ok (some t')) (hk : t.key? r = some key) :
    t'.erase key = t.erase key := by
  obtain ⟨hd, hr⟩ := rows_of_replace h
  rw [erase, erase, isSome_find?_replace h]
  split
  · refine congrArg some (eq_of_rows hd ?_)
    change without t'.definition key t'.rows = without t.definition key t.rows
    rw [hd, hr, without_overwrite hk]
  · rfl

end Table

/-- A backend with another content of a table. -/
def Backend.put (b : Backend) (t : Table) : Backend := { b with database := b.database.put t }

lemma Database.put_put {t t' : Table} (h : t'.name = t.name) (db : Database) :
    (db.put t).put t' = db.put t' := by
  simp [put, drop, h]

namespace EntityStore

variable {k : StoreKind} {s : EntityStore k.Record} {b b' : Backend} {t t' : Table} {r : Row}
  {id holder : String} {e : k.Record}

/-! ### Calls that do not read a row -/

/-- Look-ups read the row of their id. -/
lemma find_of_table? (s : EntityStore k.Record) (ho : b.isOpen = true)
    (ht : b.database.table? k.schema.mapping.table = some t) (id : String) :
    s.find id b = (t.find? (.text id)).elim (.ok none) fun r => (Entity.ofRow r).map some := by
  rw [find, Reading.bind_of_ok (Reading.connect_of_open ho),
    Reading.bind_of_ok (Reading.database_of_ok (table_of_some ht))]
  cases t.find? (.text id) with
  | none => rfl
  | some r =>
      dsimp only [Option.elim_some]
      rw [Reading.bind_apply, Reading.lift_apply]
      cases Entity.ofRow (α := k.Record) r <;> rfl

/-- The answer to a deletion depends on the leases and on whether there is a row. -/
lemma fst_runOn_delete (s : EntityStore k.Record) (ho : b.isOpen = true)
    (ht : b.database.table? k.schema.mapping.table = some t) (id holder : String) :
    ((s.delete id holder).runOn b).1 =
      ((s.leases.consumeIn id holder).runOn b).1.bind fun _ =>
        if (t.find? (.text id)).isSome then .ok () else .error (.notFound id) := by
  rcases hc : (s.leases.consumeIn id holder).runOn b with ⟨e | u, b₁⟩
  · have htransaction : (Action.transaction (do
        s.leases.consumeIn id holder
        if ← Action.change (s.writeTable fun t => .ok (t.erase (.text id))) then pure ()
        else throw (.notFound id))).runOn b = (.error e, { b₁ with database := b.database }) := by
      rw [Action.runOn_transaction_of_open ho, Action.runOn_bind_of_error hc]
    exact congrArg Prod.fst (Action.runOn_bind_of_error htransaction _)
  · obtain ⟨lt, lt', hl, hconsume, -⟩ := LeaseManager.consumeIn_eq_ok hc
    cases hf : t.find? (.text id) with
    | none =>
        exact congrArg Prod.fst (runOn_guarded_of_absent ho hl hconsume ht
          (congrArg Except.ok (Table.erase_of_none hf)))
    | some r =>
        obtain ⟨t₁, he, -⟩ := Table.erase_of_some hf
        exact congrArg Prod.fst (runOn_guarded_of_written ho hl hconsume ht (congrArg Except.ok he))

/-- The answer to the creation of an entity depends on whether there is a row. -/
lemma fst_runOn_create (s : EntityStore k.Record) (ho : b.isOpen = true)
    (ht : b.database.table? k.schema.mapping.table = some t)
    (hd : t.definition = k.schema.tableDef) (e : k.Record) :
    ((s.create e).runOn b).1 =
      if (t.find? (.text (Entity.id e))).isSome then .error (.duplicateId (Entity.id e))
      else .ok () := by
  cases hf : t.find? (.text (Entity.id e)) with
  | none =>
      obtain ⟨t₁, hi, -⟩ := exists_insert_row_of_free hd e hf
      exact congrArg Prod.fst (runOn_create_of_ok ho ht hi)
  | some r => exact congrArg Prod.fst (runOn_create_of_taken ho ht (insert_row_of_taken hd e hf))

/-- Giving up a lease does not look at the tables of entities. -/
lemma fst_runOn_consumeIn_put (m : LeaseManager) (b : Backend) (t : Table) (id holder : String) :
    ((m.consumeIn id holder).runOn (b.put t)).1 = ((m.consumeIn id holder).runOn b).1 := by
  cases hl : b.database.leases with
  | none =>
      have hl' : (b.put t).database.leases = none := hl
      rw [LeaseManager.runOn_consumeIn_of_none hl, LeaseManager.runOn_consumeIn_of_none hl']
  | some lt =>
      have hl' : (b.put t).database.leases = some lt := hl
      cases hc : lt.consume b.clock.now (m.resource id) holder with
      | none =>
          rw [LeaseManager.runOn_consumeIn_of_refused hl hc,
            LeaseManager.runOn_consumeIn_of_refused hl' hc]
          rfl
      | some lt' =>
          rw [LeaseManager.runOn_consumeIn_of_held hl hc,
            LeaseManager.runOn_consumeIn_of_held hl' hc]

/-- Are the calls answered alike that do not read the row of an id, and does its deletion leave the
same behind? -/
structure AnswersAlike (s : EntityStore k.Record) (id : String) (b b' : Backend) : Prop where
  find (id' : String) (hne : id' ≠ id) : s.find id' b' = s.find id' b
  delete (id' holder : String) :
    ((s.delete id' holder).runOn b').1 = ((s.delete id' holder).runOn b).1
  deleted (holder : String) (hok : ((s.delete id holder).runOn b).1 = .ok ()) :
    (s.delete id holder).runOn b' = (s.delete id holder).runOn b
  create (e : k.Record) : ((s.create e).runOn b').1 = ((s.create e).runOn b).1
  count : s.count [] b' = s.count [] b

/-- A deletion that succeeds leaves the same behind whatever was in the row. -/
lemma runOn_delete_put (ht : b.database.table? k.schema.mapping.table = some t)
    (hw : t.replace r = .ok (some t')) (hk : t.key? r = some (.text id))
    (hok : ((s.delete id holder).runOn b).1 = .ok ()) :
    (s.delete id holder).runOn (b.put t') = (s.delete id holder).runOn b := by
  have hrun : (s.delete id holder).runOn b = (.ok (), ((s.delete id holder).runOn b).2) :=
    Prod.ext hok rfl
  obtain ⟨ho, lt, lt', t₀, t₁, hl, hc, ht₀, he, -⟩ := guarded_eq_ok hrun
  obtain rfl : t = t₀ := Option.some.inj (ht.symm.trans ht₀)
  have hname : t'.name = t.name := congrArg TableDef.name (Table.rows_of_replace hw).1
  have ht' : (b.put t').database.table? k.schema.mapping.table = some t' := by
    rw [← Database.name_of_table? ht, ← hname]
    exact Database.table?_put_self ..
  -- erasing the row makes the tables equal, and the rest of the database is as it was
  have he' : (.ok (t'.erase (.text id)) : Except DatabaseError _) = .ok (some t₁) := by
    rw [Table.erase_replace hw hk]
    exact he
  have hname' : t₁.name = t'.name := by
    rw [hname]
    exact congrArg TableDef.name (Table.rows_of_erase (Except.ok.inj he)).1
  rw [delete, runOn_guarded_of_written ho hl hc ht he,
    runOn_guarded_of_written (b := b.put t') ho hl hc ht' he']
  have hput : ((b.database.put t').putLeases lt').put t₁ = (b.database.putLeases lt').put t₁ :=
    Database.put_put hname' (b.database.putLeases lt')
  exact Prod.ext rfl (congrArg (fun db => { b with
    database := db
    counters := b.counters.bump (.mutation s.kind .delete) }) hput)

/-- Calls that do not read the row of an id are answered alike whatever is in it. -/
theorem answersAlike_put (s : EntityStore k.Record) (ho : b.isOpen = true)
    (ht : b.database.table? k.schema.mapping.table = some t)
    (hd : t.definition = k.schema.tableDef) (hw : t.replace r = .ok (some t'))
    (hk : t.key? r = some (.text id)) : s.AnswersAlike id b (b.put t') := by
  have hd' : t'.definition = t.definition := (Table.rows_of_replace hw).1
  have ht' : (b.put t').database.table? k.schema.mapping.table = some t' := by
    have hname : t'.name = k.schema.mapping.table :=
      (congrArg TableDef.name hd').trans (Database.name_of_table? ht)
    rw [← hname]
    exact Database.table?_put_self ..
  have ho' : (b.put t').isOpen = true := ho
  refine ⟨fun id' hne => ?_, fun id' holder => ?_, fun holder hok => runOn_delete_put ht hw hk hok,
    fun e => ?_, ?_⟩
  · have hkey : (Cell.text id') ≠ .text id := fun heq => hne (Cell.text.inj heq)
    rw [s.find_of_table? ho ht, s.find_of_table? ho' ht', Table.find?_replace_of_ne hw hk hkey]
  · rw [s.fst_runOn_delete ho ht, s.fst_runOn_delete ho' ht', fst_runOn_consumeIn_put,
      Table.isSome_find?_replace hw]
  · rw [s.fst_runOn_create ho ht hd, s.fst_runOn_create ho' ht' (hd'.trans hd),
      Table.isSome_find?_replace hw]
  · rw [s.count_nil_of_table? ho ht, s.count_nil_of_table? ho' ht', Table.length_replace hw]

/-! ### Updates -/

/-- Is an entity stored as if it had just been created, by a statement that assigned every column of
a row but its id? -/
structure IsRestored (s : EntityStore k.Record) (e : k.Record) (t : Table) (b : Backend) :
    Prop where
  row : b.database.row? k (Entity.id e) = some (k.schema.inserted (Entity.params e))
  rows : ∃ t', b.database.table? k.schema.mapping.table = some t' ∧
    t'.rows = k.schema.updateRows (Entity.params e) t.rows
  found : s.find (Entity.id e) b = .ok (some e)
  created (b₀ : Backend) (t₀ : Table) (ho : b₀.isOpen = true)
    (ht : b₀.database.table? k.schema.mapping.table = some t₀)
    (hd : t₀.definition = k.schema.tableDef) (hf : t₀.find? (.text (Entity.id e)) = none) :
    ∃ b₁, (s.create e).runOn b₀ = (.ok (), b₁) ∧
      b₁.database.row? k (Entity.id e) = b.database.row? k (Entity.id e)

/-- An update by the holder of the lease restores the row of its entity. -/
lemma exists_update_of_active (ho : b.isOpen = true)
    (ht : b.database.table? k.schema.mapping.table = some t)
    (hd : t.definition = k.schema.tableDef) (hr : t.find? (.text (Entity.id e)) = some r)
    (hnames : r.names = k.schema.mapping.columnNames) (he : Entity.IsStorable e) {l : Lease}
    (hl : b.active? (k.resource (Entity.id e)) = some l) (hholder : l.leasedBy = holder) :
    ∃ b', (s.update e holder).runOn b = (.ok (), b') ∧ s.IsRestored e t b' := by
  obtain ⟨lt, hleases, -⟩ := Database.leases_of_lease? (Backend.active?_eq_some_iff.mp hl).1
  obtain ⟨b₁, hconsume⟩ :=
    LeaseManager.exists_consumeIn_of_active (m := s.leases) hleases hl hholder
  obtain ⟨lt₀, lt', hleases, hc, -⟩ := LeaseManager.consumeIn_eq_ok hconsume
  have hkey := key?_row_of_conforms hd e
  obtain ⟨t', hw, hd', hrows⟩ := Table.replace_of_some (lacking?_row_of_conforms hd e) hkey hr
  have hname : t'.name = k.schema.mapping.table :=
    (congrArg TableDef.name hd').trans (Database.name_of_table? ht)
  have hrow : t'.find? (.text (Entity.id e)) = some (Entity.row e) := by
    rw [Table.find?_replaced hd' hrows, if_pos hkey, hr, hd]
    rfl
  -- the row of the id is the one that is known to have all columns
  have hupdated : t'.rows = k.schema.updateRows (Entity.params e) t.rows := by
    rw [hrows, StoreKind.updateRows_eq_overwrite, hd]
    · rfl
    · intro x hx hid
      rw [← hd] at hid
      rwa [Option.some.inj ((Table.find?_of_mem hx hid).symm.trans hr)]
  have hstored : ((b.database.putLeases lt').put t').row? k (Entity.id e) =
      some (Entity.row e) := by
    rw [Database.row?_put_self hname, hrow]
  refine ⟨_, runOn_guarded_of_written ho hleases hc ht hw, ?_, ?_, ?_, ?_⟩
  · rw [StoreKind.inserted_eq_row]
    exact hstored
  · refine ⟨t', ?_, hupdated⟩
    rw [← hname]
    exact Database.table?_put_self ..
  · exact find_of_row? ho hstored (DocumentedEntity.ofRow_row e he)
  · intro b₀ t₀ ho₀ ht₀ hd₀ hf₀
    obtain ⟨b₂, hcreate, hrow₂⟩ := s.exists_create_of_free e ho₀ ht₀ hd₀ hf₀
    exact ⟨b₂, hcreate, hrow₂.trans hstored.symm⟩

/-- Whatever is in the row of an entity beside its id, an update by the holder of the lease
succeeds, and leaves what the creation of the entity would have left.  Until then all calls but
those that read the row are answered as if the row of some entity were intact. -/
theorem isRestored_of_damaged (s : EntityStore k.Record) (ho : b.isOpen = true)
    (ht : b.database.table? k.schema.mapping.table = some t)
    (hd : t.definition = k.schema.tableDef) (hr : t.find? (.text (Entity.id e)) = some r)
    (hnames : r.names = k.schema.mapping.columnNames) (he : Entity.IsStorable e) {l : Lease}
    (hl : b.active? (k.resource (Entity.id e)) = some l) (hholder : l.leasedBy = holder) :
    (∃ b', (s.update e holder).runOn b = (.ok (), b') ∧ s.IsRestored e t b') ∧
      ∀ e₀ : k.Record, Entity.id e₀ = Entity.id e →
        ∃ t₀, t.replace (Entity.row e₀) = .ok (some t₀) ∧
          t₀.find? (.text (Entity.id e)) = some (Entity.row e₀) ∧
          s.AnswersAlike (Entity.id e) b (b.put t₀) := by
  refine ⟨exists_update_of_active ho ht hd hr hnames he hl hholder, fun e₀ hid => ?_⟩
  have hkey : t.key? (t.definition.row (Entity.params e₀)) = some (.text (Entity.id e)) :=
    hid ▸ key?_row_of_conforms hd e₀
  have hrow : t.definition.row (Entity.params e₀) = Entity.row e₀ := by
    rw [hd]
    rfl
  obtain ⟨t₀, hw, hd₀, hrows₀⟩ := Table.replace_of_some (lacking?_row_of_conforms hd e₀) hkey hr
  rw [hrow] at hw hkey hrows₀
  refine ⟨t₀, hw, ?_, s.answersAlike_put ho ht hd hw hkey⟩
  rw [Table.find?_replaced hd₀ hrows₀, if_pos hkey, hr]
  rfl

/-- A transfer in a state that there is not, with a document that is none, cannot be read any more;
the holder of its lease overwrites it, and it can. -/
theorem isRestored_of_unknown_state :
    let k : StoreKind := .transferProcess
    let e : k.Record := TransferProcess.new "t" .consumer (DataRequest.new "d" "a" "c") 7
    let r : Row := (((Entity.row e).set "state" (.int 999)).set "data_request" (.text "\x7b")).set
      "asset_id" (.text "b")
    let t : Table := ⟨k.schema.tableDef, [r], by decide⟩
    let l : Lease := ⟨k.schema.kind, "t", "we", 50, 100⟩
    let b : Backend := ⟨⟨some ⟨[l], by decide⟩, [t]⟩, true, ⟨60⟩, .empty⟩
    let s : EntityStore k.Record := .new k.Record 1000 10
    b.isOpen = true ∧ b.database.table? k.schema.mapping.table = some t ∧
      t.definition = k.schema.tableDef ∧ t.find? (.text (Entity.id e)) = some r ∧
      r.names = k.schema.mapping.columnNames ∧ Entity.IsStorable e ∧
      b.active? (k.resource (Entity.id e)) = some l ∧ l.leasedBy = "we" ∧
      (∃ fault, s.find (Entity.id e) b = .error fault) ∧
      ∃ b', (s.update e "we").runOn b = (.ok (), b') ∧ s.find (Entity.id e) b' = .ok (some e) := by
  intro k e r t l b s
  have hstorable : Entity.IsStorable e := by
    intro j hj
    cases List.mem_singleton.mp hj
    exact ⟨⟨trivial, trivial, trivial, trivial, trivial, trivial, trivial, trivial, trivial⟩,
      by decide⟩
  have hactive : b.active? (k.resource (Entity.id e)) = some l := by decide +kernel
  obtain ⟨⟨b', hrun, hrestored⟩, -⟩ :=
    isRestored_of_damaged (b := b) (t := t) (e := e) (l := l)
      s rfl rfl rfl rfl rfl hstorable hactive
      rfl
  exact ⟨rfl, rfl, rfl, rfl, rfl, hstorable, hactive, rfl, ⟨_, rfl⟩, b', hrun, hrestored.found⟩

end EntityStore

end LeasedStore
