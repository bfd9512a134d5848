/-
The rows of entities, and what calls of stores do to them.

* `StoreKind.resource`: what leases on an entity are about;
* `Database.row?`: the row of the entity of an id;
* `Database.Conforms`: the tables of entities that exist are defined as their kinds want it;
* `EntityStore.find_eq_some_iff`: a look-up answers what the row says;
* `EntityStore.row?_of_create`, `row?_of_update`, `row?_of_delete`: the rows after a new entity was
  put in, and after one was overwritten or removed;
* `EntityStore.IsWrite`: does a write put a row, or none, in place of that under an id?
-/
import LeasedStore.Proofs.Store.Single
import LeasedStore.Store.ControlPlane

namespace LeasedStore

/-- What leases on an entity of a kind are about. -/
def StoreKind.resource (k : StoreKind) (id : String) : Resource := ⟨k.schema.kind, id⟩

lemma StoreKind.table_injective : ∀ k k' : StoreKind,
    k.schema.mapping.table = k'.schema.mapping.table → k = k' := by
  intro k k'
  cases k <;> cases k' <;> first | exact fun _ => rfl | (intro h; exact absurd h (by decide))

lemma StoreKind.name_injective : ∀ k k' : StoreKind, k.schema.kind = k'.schema.kind → k = k' := by
  intro k k'
  cases k <;> cases k' <;> first | exact fun _ => rfl | (intro h; exact absurd h (by decide))

namespace Database

variable {db : Database} {t t' : Table} {k k' : StoreKind} {id : String}

/-- The row of the entity of an id. -/
def row? (db : Database) (k : StoreKind) (id : String) : Option Row :=
  (db.table? k.schema.mapping.table).bind fun t => t.find? (.text id)

/-- Are the tables of entities that exist defined as their kinds want it? -/
def Conforms (db : Database) : Prop :=
  ∀ (k : StoreKind) (t : Table), db.table? k.schema.mapping.table = some t →
    t.definition = k.schema.tableDef

/-- A database conforms if its only table is the one of a kind, as the kind wants it. -/
lemma conforms_single (leases : Option LeaseTable) (h : t.definition = k.schema.tableDef) :
    Conforms ⟨leases, [t]⟩ := by
  intro k' t' ht'
  obtain rfl : t' = t := List.mem_singleton.mp (List.mem_of_find?_eq_some ht')
  have hname : k.schema.mapping.table = k'.schema.mapping.table := by
    rw [← name_of_table? ht', Table.name, h]
    rfl
  rw [h, StoreKind.table_injective k k' hname]

lemma row?_of_table? (h : db.table? k.schema.mapping.table = some t) (id : String) :
    db.row? k id = t.find? (.text id) := by
  rw [row?, h]; rfl

@[simp]
lemma row?_putLeases (db : Database) (lt : LeaseTable) (k : StoreKind) (id : String) :
    (db.putLeases lt).row? k id = db.row? k id := rfl

lemma row?_put_self (h : t'.name = k.schema.mapping.table) (id : String) :
    (db.put t').row? k id = t'.find? (.text id) := by
  rw [row?, ← h, table?_put_self]; rfl

/-- The rows of other kinds are what they were. -/
lemma row?_put_of_ne (h : t'.name = k.schema.mapping.table) (hk : k ≠ k') (id : String) :
    (db.put t').row? k' id = db.row? k' id := by
  have hne : t'.name ≠ k'.schema.mapping.table := by
    rw [h]
    exact fun heq => hk (StoreKind.table_injective _ _ heq)
  rw [row?, table?_put_of_ne hne]; rfl

/-- Tables stay as their kinds want them if one of them is put in place of another one. -/
lemma Conforms.put (h : db.Conforms) (ht : db.table? k.schema.mapping.table = some t)
    (hd : t'.definition = t.definition) : (db.put t').Conforms := by
  have hname : t'.name = k.schema.mapping.table := by
    rw [Table.name, hd]
    exact name_of_table? ht
  intro k' t₁ ht₁
  by_cases hk : k = k'
  · subst hk
    rw [← hname, table?_put_self] at ht₁
    cases ht₁
    exact hd.trans (h k t ht)
  · have hne : t'.name ≠ k'.schema.mapping.table := by
      rw [hname]
      exact fun heq => hk (StoreKind.table_injective _ _ heq)
    rw [table?_put_of_ne hne] at ht₁
    exact h k' t₁ ht₁

lemma Conforms.putLeases (h : db.Conforms) (lt : LeaseTable) : (db.putLeases lt).Conforms := h

end Database

namespace EntityStore

variable {k k' : StoreKind} {s : EntityStore k.Record} {b b' : Backend} {u : Unit}
  {e : k.Record} {holder id : String}

lemma key?_row_of_conforms {t : Table} (hd : t.definition = k.schema.tableDef) (e : k.Record) :
    t.key? (t.definition.row (Entity.params e)) = some (.text (Entity.id e)) := by
  rw [Table.key?, hd]
  exact LawfulEntity.key?_row e

lemma lacking?_row_of_conforms {t : Table} (hd : t.definition = k.schema.tableDef)
    (e : k.Record) : t.definition.lacking? (t.definition.row (Entity.params e)) = none := by
  rw [hd]
  exact LawfulEntity.lacking?_row e

lemma conforms_of_create (hc : b.database.Conforms) (h : (s.create e).runOn b = (.ok u, b')) :
    b'.database.Conforms := by
  obtain ⟨-, t, t', ht, hi, hdb⟩ := create_eq_ok h
  rw [hdb]
  exact hc.put ht (Table.rows_of_insert hi).1

lemma conforms_of_update (hc : b.database.Conforms)
    (h : (s.update e holder).runOn b = (.ok u, b')) : b'.database.Conforms := by
  obtain ⟨-, lt, lt', t, t', -, -, ht, hw, hdb⟩ := guarded_eq_ok h
  rw [hdb]
  exact (hc.putLeases lt').put ht (Table.rows_of_replace hw).1

lemma conforms_of_delete (hc : b.database.Conforms)
    (h : (s.delete id holder).runOn b = (.ok u, b')) : b'.database.Conforms := by
  obtain ⟨-, lt, lt', t, t', -, -, ht, hw, hdb⟩ := guarded_eq_ok h
  rw [hdb]
  exact (hc.putLeases lt').put ht (Table.rows_of_erase (Except.ok.inj hw)).1

/-- A new entity has a row, and the other rows are what they were. -/
lemma row?_of_create (hc : b.database.Conforms) (h : (s.create e).runOn b = (.ok u, b'))
    (id : String) :
    b'.database.row? k id = (b.database.row? k id).or
      (if Entity.id e = id then some (Entity.row e) else none) := by
  obtain ⟨-, t, t', ht, hi, hdb⟩ := create_eq_ok h
  obtain ⟨hd, hr⟩ := Table.rows_of_insert hi
  have hk := hc k t ht
  have hname : t'.name = k.schema.mapping.table := by
    rw [Table.name, hd]
    exact Database.name_of_table? ht
  rw [hdb, Database.row?_put_self hname, Table.find?_inserted hd hr, Database.row?_of_table? ht,
    key?_row_of_conforms hk e, hk]
  congr 1
  simp only [Option.some.injEq, Cell.text.injEq]
  rfl

/-- The row of an entity that is overwritten, and the other rows, which are what they were. -/
lemma row?_of_update (hc : b.database.Conforms) (h : (s.update e holder).runOn b = (.ok u, b'))
    (id : String) :
    b'.database.row? k id =
      if Entity.id e = id then (b.database.row? k id).map fun _ => Entity.row e
      else b.database.row? k id := by
  obtain ⟨-, lt, lt', t, t', -, -, ht, hw, hdb⟩ := guarded_eq_ok h
  obtain ⟨hd, hr⟩ := Table.rows_of_replace hw
  have hk := hc k t ht
  have hname : t'.name = k.schema.mapping.table := by
    rw [Table.name, hd]
    exact Database.name_of_table? ht
  rw [hdb, Database.row?_put_self hname, Table.find?_replaced hd hr, Database.row?_of_table? ht,
    key?_row_of_conforms hk e, hk]
  simp only [Option.some.injEq, Cell.text.injEq]
  rfl

/-- The row of an entity that is removed is gone, and the others are what they were. -/
lemma row?_of_delete (h : (s.delete id holder).runOn b = (.ok u, b')) (id' : String) :
    b'.database.row? k id' = if id = id' then none else b.database.row? k id' := by
  obtain ⟨-, lt, lt', t, t', -, -, ht, hw, hdb⟩ := guarded_eq_ok h
  obtain ⟨hd, hr⟩ := Table.rows_of_erase (Except.ok.inj hw)
  have hname : t'.name = k.schema.mapping.table := by
    rw [Table.name, hd]
    exact Database.name_of_table? ht
  rw [hdb, Database.row?_put_self hname, Table.find?_erased hd hr, Database.row?_of_table? ht]
  simp only [Cell.text.injEq]

/-- A new entity leaves the rows of other kinds alone. -/
lemma row?_of_create_of_ne (h : (s.create e).runOn b = (.ok u, b')) (hk : k ≠ k') (id : String) :
    b'.database.row? k' id = b.database.row? k' id := by
  obtain ⟨-, t, t', ht, hi, hdb⟩ := create_eq_ok h
  have hname : t'.name = k.schema.mapping.table := by
    rw [Table.name, (Table.rows_of_insert hi).1]
    exact Database.name_of_table? ht
  rw [hdb, Database.row?_put_of_ne hname hk]

/-- An entity that is overwritten leaves the rows of other kinds alone. -/
lemma row?_of_update_of_ne (h : (s.update e holder).runOn b = (.ok u, b')) (hk : k ≠ k')
    (id : String) : b'.database.row? k' id = b.database.row? k' id := by
  obtain ⟨-, lt, lt', t, t', -, -, ht, hw, hdb⟩ := guarded_eq_ok h
  have hname : t'.name = k.schema.mapping.table := by
    rw [Table.name, (Table.rows_of_replace hw).1]
    exact Database.name_of_table? ht
  rw [hdb, Database.row?_put_of_ne hname hk, Database.row?_putLeases]

/-- An entity that is removed leaves the rows of other kinds alone. -/
lemma row?_of_delete_of_ne (h : (s.delete id holder).runOn b = (.ok u, b')) (hk : k ≠ k')
    (id' : String) : b'.database.row? k' id' = b.database.row? k' id' := by
  obtain ⟨-, lt, lt', t, t', -, -, ht, hw, hdb⟩ := guarded_eq_ok h
  have hname : t'.name = k.schema.mapping.table := by
    rw [Table.name, (Table.rows_of_erase (Except.ok.inj hw)).1]
    exact Database.name_of_table? ht
  rw [hdb, Database.row?_put_of_ne hname hk, Database.row?_putLeases]

/-! ### Writes of one row -/

lemma insert_row_of_taken {t : Table} {r : Row} (hd : t.definition = k.schema.tableDef)
    (e : k.Record) (hf : t.find? (.text (Entity.id e)) = some r) :
    t.insert (t.definition.row (Entity.params e)) = .error t.duplicate :=
  Table.insert_of_taken (lacking?_row_of_conforms hd e) (key?_row_of_conforms hd e) hf

/-- A row whose id is free is put in. -/
lemma exists_insert_row_of_free {t : Table} (hd : t.definition = k.schema.tableDef) (e : k.Record)
    (hf : t.find? (.text (Entity.id e)) = none) :
    ∃ t', t.insert (t.definition.row (Entity.params e)) = .ok t' ∧ t'.definition = t.definition ∧
      t'.rows = t.rows ++ [Entity.row e] ∧ ∀ id, t'.find? (.text id) =
        if Entity.id e = id then some (Entity.row e) else t.find? (.text id) := by
  have hkey := key?_row_of_conforms hd e
  obtain ⟨t', hi, hd', hrows⟩ := Table.insert_of_free (lacking?_row_of_conforms hd e) hkey hf
  refine ⟨t', hi, hd', by rw [hrows, hd]; rfl, fun id => ?_⟩
  rw [Table.find?_inserted hd' hrows, hkey]
  simp only [Option.some.injEq, Cell.text.injEq]
  split
  · next heq => rw [← heq, hf, hd]; rfl
  · rw [Option.or_none]

/-- A new entity is stored as its row. -/
lemma exists_create_of_free {t : Table} (s : EntityStore k.Record) (e : k.Record)
    (ho : b.isOpen = true)
    (ht : b.database.table? k.schema.mapping.table = some t)
    (hd : t.definition = k.schema.tableDef) (hf : t.find? (.text (Entity.id e)) = none) :
    ∃ b', (s.create e).runOn b = (.ok (), b') ∧
      b'.database.row? k (Entity.id e) = some (Entity.row e) := by
  obtain ⟨t', hi, hd', -, hfind⟩ := exists_insert_row_of_free hd e hf
  have hname : t'.name = k.schema.mapping.table :=
    (congrArg TableDef.name hd').trans (Database.name_of_table? ht)
  refine ⟨_, runOn_create_of_ok ho ht hi, ?_⟩
  rw [Database.row?_put_self hname, hfind, if_pos rfl]

/-- Does a write put a row, or none, in place of that under an id, if there is one? -/
structure IsWrite (k : StoreKind) (id : String) (row? : Option Row)
    (write : Table → Except DatabaseError (Option Table)) : Prop where
  absent (t : Table) : t.definition = k.schema.tableDef → t.find? (.text id) = none →
    write t = .ok none
  present (t : Table) (r : Row) : t.definition = k.schema.tableDef →
    t.find? (.text id) = some r → ∃ t', write t = .ok (some t') ∧
      t'.definition = t.definition ∧
      (∀ id', t'.find? (.text id') = if id = id' then row? else t.find? (.text id')) ∧
      ∀ x ∈ t'.rows, x ∈ t.rows ∨ row? = some x

/-- An entity is overwritten by its row. -/
lemma isWrite_update (e : k.Record) : IsWrite k (Entity.id e) (some (Entity.row e))
    fun t => t.replace (t.definition.row (Entity.params e)) where
  absent t hd hf := Table.replace_of_none (key?_row_of_conforms hd e) hf
  present t r hd hf := by
    have hkey := key?_row_of_conforms hd e
    obtain ⟨t', hw, hd', hrows⟩ := Table.replace_of_some (lacking?_row_of_conforms hd e) hkey hf
    refine ⟨t', hw, hd', fun id' => ?_, fun x hx => ?_⟩
    · rw [Table.find?_replaced hd' hrows, hkey]
      simp only [Option.some.injEq, Cell.text.injEq]
      split
      · next heq => rw [← heq, hf, hd]; rfl
      · rfl
    · rw [hrows] at hx
      exact (Table.mem_overwrite hx).symm.imp_right fun hx => by rw [hx, hd]; rfl

/-- An entity is removed with its row. -/
lemma isWrite_delete (k : StoreKind) (id : String) :
    IsWrite k id none fun t => .ok (t.erase (.text id)) where
  absent t _ hf := by rw [Table.erase_of_none hf]
  present t r _ hf := by
    obtain ⟨t', hw, hd', hrows⟩ := Table.erase_of_some hf
    refine ⟨t', congrArg _ hw, hd', fun id' => ?_, fun x hx => .inl ?_⟩
    · rw [Table.find?_erased hd' hrows]
      simp only [Cell.text.injEq]
    · rw [hrows] at hx
      exact (List.mem_filter.mp hx).1

/-! ### Look-ups -/

/-- The entity that a look-up finds is that of the row. -/
lemma find_eq_some_iff : s.find id b = .ok (some e) ↔
    b.isOpen = true ∧ ∃ r, b.database.row? k id = some r ∧ Entity.ofRow r = .ok e := by
  cases ho : b.isOpen with
  | false =>
      rw [find, Reading.bind_of_error (Reading.connect_of_closed ho)]
      simp
  | true =>
      rw [find, Reading.bind_of_ok (Reading.connect_of_open ho)]
      cases ht : b.database.table? k.schema.mapping.table with
      | none =>
          rw [Reading.bind_of_error (Reading.database_of_error (table_of_none ht)),
            Database.row?, ht]
          simp
      | some t =>
          rw [Reading.bind_of_ok (Reading.database_of_ok (table_of_some ht)),
            Database.row?_of_table? ht]
          cases t.find? (.text id) with
          | none => simp
          | some r =>
              simp only [Reading.bind_eq_ok, Reading.lift_apply, Reading.pure_apply]
              simp

lemma find_of_row? {r : Row} (ho : b.isOpen = true) (hr : b.database.row? k id = some r)
    (he : Entity.ofRow r = .ok e) : s.find id b = .ok (some e) :=
  find_eq_some_iff.mpr ⟨ho, r, hr, he⟩

/-- No entity is found where there is no row. -/
lemma find_of_absent {t : Table} (ho : b.isOpen = true)
    (ht : b.database.table? k.schema.mapping.table = some t)
    (hr : b.database.row? k id = none) : s.find id b = .ok none := by
  rw [Database.row?_of_table? ht] at hr
  rw [find, Reading.bind_of_ok (Reading.connect_of_open ho),
    Reading.bind_of_ok (Reading.database_of_ok (table_of_some ht)), hr]
  rfl

end EntityStore

end LeasedStore
