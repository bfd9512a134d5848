/-
Backends that holders of leases can work with, and what keeps them so.

* `Backend.IsReady`: the table of leases is there, and so is that of a kind of entities, all its
  columns holding what their types make of their contents;
* `Table.isStored_of_insert`, `isStored_of_replace`, `isStored_of_erase`: columns go on to hold that
  whatever is written;
* `Backend.IsReady.ofKeeps`, `create`, `update`, `delete`: so backends stay ready;
* `Backend.isReady_founded`: they are at the beginning.
-/
import LeasedStore.Proofs.Lease.Active
import LeasedStore.Proofs.Query.Stored
import LeasedStore.Proofs.Store.Schema

namespace LeasedStore

/-! ### What columns hold after a write -/

namespace Table

variable {t t' : Table} {r : Row} {key : Cell}

/-- Columns hold what they should if those of a row do that is put in. -/
lemma isStored_of_insert (ht : t.IsStored) (hr : t.definition.Stores r) (h : t.insert r = .ok t') :
    t'.IsStored := by
  obtain ⟨hd, hrows⟩ := rows_of_insert h
  intro x hx
  rw [hrows] at hx
  rw [hd]
  rcases List.mem_append.mp hx with hx | hx
  · exact ht x hx
  · exact List.mem_singleton.mp hx ▸ hr

/-- Columns hold what they should if those of a row do that overwrites another one. -/
lemma isStored_of_replace (ht : t.IsStored) (hr : t.definition.Stores r)
    (h : t.replace r = .ok (some t')) : t'.IsStored := by
  obtain ⟨hd, hrows⟩ := rows_of_replace h
  intro x hx
  rw [hrows] at hx
  rw [hd]
  rcases mem_overwrite hx with rfl | hx
  · exact hr
  · exact ht x hx

/-- Columns go on to hold what they should if a row is taken out. -/
lemma isStored_of_erase (ht : t.IsStored) (h : t.erase key = some t') : t'.IsStored := by
  obtain ⟨hd, hrows⟩ := rows_of_erase h
  intro x hx
  rw [hrows] at hx
  rw [hd]
  exact ht x (List.mem_filter.mp hx).1

end Table

/-! ### Backends -/

/-- Are the tables there that holders of leases on entities of a kind work with? -/
structure Backend.IsReady (k : StoreKind) (b : Backend) : Prop where
  isOpen : b.isOpen = true
  leases : ∃ lt, b.database.leases = some lt
  table : ∃ t, b.database.table? k.schema.mapping.table = some t ∧
    t.definition = k.schema.tableDef ∧ t.IsStored

namespace Backend.IsReady

variable {k k' : StoreKind} {b b' : Backend} {t t' : Table} {e : k.Record} {holder id : String}
  {u : Unit}

/-- A backend stays ready while its tables stay and it is not closed. -/
lemma ofTables (h : b.IsReady k) (ho : b'.isOpen = b.isOpen)
    (hl : ∃ lt, b'.database.leases = some lt)
    (ht : ∀ name, b'.database.table? name = b.database.table? name) : b'.IsReady k where
  isOpen := ho.trans h.isOpen
  leases := hl
  table := by
    rw [ht]
    exact h.table

/-- A backend stays ready while nothing but leases changes. -/
lemma ofKeeps (h : b.IsReady k) (hk : b.KeepsEntities b') : b'.IsReady k :=
  h.ofTables (congrArg Prod.fst hk.setting) hk.leases hk.table?

/-- A backend stays ready if a table is put in place of the one of its kind. -/
lemma put (h : b.IsReady k') (ho : b'.isOpen = b.isOpen) (hl : ∃ lt, b'.database.leases = some lt)
    (ht : b.database.table? k.schema.mapping.table = some t) (hd : t'.definition = t.definition)
    (hs : t.definition = k.schema.tableDef → t.IsStored → t'.IsStored)
    (hput : ∀ name, b'.database.table? name = (b.database.put t').table? name) : b'.IsReady k' where
  isOpen := ho.trans h.isOpen
  leases := hl
  table := by
    have hname : t'.name = k.schema.mapping.table := by
      rw [Table.name, hd]
      exact Database.name_of_table? ht
    obtain ⟨t₁, ht₁, hd₁, hs₁⟩ := h.table
    rw [hput]
    by_cases hk : k = k'
    · subst hk
      cases ht.symm.trans ht₁
      exact ⟨t', by rw [← hname, Database.table?_put_self], hd.trans hd₁, hs hd₁ hs₁⟩
    · have hne : t'.name ≠ k'.schema.mapping.table := by
        rw [hname]
        exact fun heq => hk (StoreKind.table_injective _ _ heq)
      exact ⟨t₁, by rw [Database.table?_put_of_ne hne, ht₁], hd₁, hs₁⟩

/-- A backend stays ready if a new entity is put in. -/
lemma create {s : EntityStore k.Record} (h : b.IsReady k')
    (hrun : (s.create e).runOn b = (.ok u, b')) : b'.IsReady k' := by
  have hsetting := s.keepsSetting_create e b
  rw [hrun] at hsetting
  obtain ⟨-, t, t', ht, hi, hdb⟩ := EntityStore.create_eq_ok hrun
  refine h.put (congrArg Prod.fst hsetting) (by rw [hdb]; exact h.leases) ht
    (Table.rows_of_insert hi).1 (fun hd hs => Table.isStored_of_insert hs ?_ hi)
    fun name => by rw [hdb]
  rw [hd]
  exact k.stores_row e

/-- A backend stays ready if an entity is written under a lease. -/
lemma guarded {s : EntityStore k.Record} {op : Mutation}
    {write : Table → Except DatabaseError (Option Table)} (h : b.IsReady k')
    (hrun : (s.guarded op id holder write).runOn b = (.ok u, b'))
    (hwrite : ∀ t t', write t = .ok (some t') → t'.definition = t.definition ∧
      (t.definition = k.schema.tableDef → t.IsStored → t'.IsStored)) : b'.IsReady k' := by
  have hsetting := s.keepsSetting_guarded op id holder write b
  rw [hrun] at hsetting
  obtain ⟨-, lt, lt', t, t', -, -, ht, hw, hdb⟩ := EntityStore.guarded_eq_ok hrun
  obtain ⟨hd, hs⟩ := hwrite t t' hw
  exact h.put (congrArg Prod.fst hsetting) ⟨lt', by rw [hdb]; rfl⟩ ht hd hs
    fun name => by rw [hdb]; rfl

lemma update {s : EntityStore k.Record} (h : b.IsReady k')
    (hrun : (s.update e holder).runOn b = (.ok u, b')) : b'.IsReady k' :=
  h.guarded hrun fun _ _ hw => ⟨(Table.rows_of_replace hw).1, fun hd hs =>
    Table.isStored_of_replace hs (by rw [hd]; exact k.stores_row e) hw⟩

lemma delete {s : EntityStore k.Record} (h : b.IsReady k')
    (hrun : (s.delete id holder).runOn b = (.ok u, b')) : b'.IsReady k' :=
  h.guarded hrun fun _ _ hw => ⟨(Table.rows_of_erase (Except.ok.inj hw)).1, fun _ hs =>
    Table.isStored_of_erase hs (Except.ok.inj hw)⟩

end Backend.IsReady

lemma Backend.isReady_founded (now : Int64) (k : StoreKind) : (founded now).IsReady k where
  isOpen := rfl
  leases := ⟨_, rfl⟩
  table := ⟨_, table?_founded now k, rfl, nofun⟩

end LeasedStore
