/-
What look-ups by key see of a write to a table.

* `Database.table_of_table?`, `table_of_none`, `name_of_table?`: tables under their names;
* `Table.insert_of_free`, `insert_of_taken`: a row is put in if its key is free, and refused if it
  is taken;
* `Table.replace_of_some`, `replace_of_none`: a row is overwritten if there is one under its key;
* `Table.find?_inserted`, `find?_replaced`, `find?_erased`: the row under a key afterwards;
* `Table.length_of_erase`: how many rows there are then.
-/
import Mathlib.Tactic.Common
import LeasedStore.Database.Basic

namespace LeasedStore

namespace Database

variable {db : Database} {t : Table} {name : String}

lemma table_of_table? (h : db.table? name = some t) : db.table name = .ok t := by
  rw [table, h]

lemma table_eq_ok : db.table name = .ok t ↔ db.table? name = some t := by
  rw [table]
  cases db.table? name <;> simp

lemma table_of_none (h : db.table? name = none) : db.table name = .error (.noSuchTable name) := by
  rw [table, h]

lemma name_of_table? (h : db.table? name = some t) : t.name = name := by
  simpa using List.find?_some h

end Database

namespace Table

variable {t t' : Table} {r r' : Row} {key key' : Cell}

/-! ### The row under a key -/

lemma mem_rows_of_find? (h : t.find? key = some r) : r ∈ t.rows := List.mem_of_find?_eq_some h

/-- A row is the row under its key, since keys are distinct. -/
lemma find?_of_mem (hr : r ∈ t.rows) (hk : t.key? r = some key) : t.find? key = some r := by
  obtain ⟨d, rows, hn⟩ := t
  simp only [find?, key?, TableDef.keys] at hr hk hn ⊢
  induction rows with
  | nil => cases hr
  | cons x rest ih =>
      rw [List.find?_cons]
      rcases List.mem_cons.mp hr with rfl | hr
      · simp [hk]
      · have hx : d.key? x ≠ some key := by
          intro hx
          rw [List.filterMap_cons, hx] at hn
          exact (List.nodup_cons.mp hn).1 (List.mem_filterMap.mpr ⟨r, hr, hk⟩)
        simp only [hx, decide_false]
        refine ih (hn.sublist ?_) hr
        exact (List.sublist_cons_self x rest).filterMap _

lemma isTaken_of_key (h : t.key? r = some key) : t.isTaken r = (t.find? key).isSome := by
  rw [isTaken, h]

/-! ### Rows put in -/

lemma insert_of_free (hl : t.definition.lacking? r = none) (hk : t.key? r = some key)
    (hf : t.find? key = none) :
    ∃ t', t.insert r = .ok t' ∧ t'.definition = t.definition ∧ t'.rows = t.rows ++ [r] := by
  have ht : ¬ t.isTaken r = true := by simp [isTaken_of_key hk, hf]
  exact ⟨⟨t.definition, t.rows ++ [r], nodup_append ht⟩, by simp [insert, hl, ht], rfl, rfl⟩

lemma insert_of_taken (hl : t.definition.lacking? r = none) (hk : t.key? r = some key)
    (hf : t.find? key = some r') : t.insert r = .error t.duplicate := by
  have ht : t.isTaken r = true := by simp [isTaken_of_key hk, hf]
  simp [insert, hl, ht]

/-- A table after a row was put in behind the others. -/
lemma rows_of_insert (h : t.insert r = .ok t') :
    t'.definition = t.definition ∧ t'.rows = t.rows ++ [r] := by
  rw [insert] at h
  split at h
  · cases h
  · split at h
    · cases h
    · cases h
      exact ⟨rfl, rfl⟩

/-- The row under a key after a row was put in behind the others. -/
lemma find?_inserted (hd : t'.definition = t.definition) (hr : t'.rows = t.rows ++ [r])
    (key : Cell) :
    t'.find? key = (t.find? key).or (if t.key? r = some key then some r else none) := by
  simp only [find?, key?, hd, hr, List.find?_append]
  congr 1
  by_cases h : t.definition.key? r = some key <;> simp [h]

/-! ### Rows overwritten -/

/-- The row under a key after a row was written over the one with its key. -/
lemma find?_overwrite (d : TableDef) (r : Row) (rows : List Row) (key : Cell) :
    (overwrite d r rows).find? (fun x => d.key? x = some key) =
      if d.key? r = some key then (rows.find? fun x => d.key? x = some key).map fun _ => r
      else rows.find? fun x => d.key? x = some key := by
  induction rows with
  | nil => simp [overwrite]
  | cons x rest ih =>
      rw [overwrite, List.map_cons, ← overwrite]
      -- the row in front is either the one that is overwritten, or keeps its own key
      by_cases hx : (d.key? x).isSome ∧ d.key? x = d.key? r
      · rw [if_pos hx]
        by_cases hk : d.key? r = some key
        · simp [hk, hx.2]
        · rw [List.find?_cons, List.find?_cons, ih, if_neg hk]
          simp [hk, hx.2]
      · rw [if_neg hx]
        by_cases hxk : d.key? x = some key
        · have hk : d.key? r ≠ some key := fun hk => hx ⟨by simp [hxk], hxk.trans hk.symm⟩
          simp [hxk, hk]
        · rw [List.find?_cons, List.find?_cons, ih]
          simp [hxk]

/-- After a row was overwritten there are only it and rows that were there before. -/
lemma mem_overwrite {d : TableDef} {rows : List Row} {x : Row} (h : x ∈ overwrite d r rows) :
    x = r ∨ x ∈ rows := by
  obtain ⟨y, hy, hx⟩ := List.mem_map.mp h
  split at hx
  · exact .inl hx.symm
  · exact .inr (hx ▸ hy)

/-- A row that lacks nothing is written over the one under its key. -/
lemma replace_of_some (hl : t.definition.lacking? r = none) (hk : t.key? r = some key)
    (hf : t.find? key = some r') :
    ∃ t', t.replace r = .ok (some t') ∧ t'.definition = t.definition ∧
      t'.rows = overwrite t.definition r t.rows := by
  have ht : t.isTaken r = true := by simp [isTaken_of_key hk, hf]
  refine ⟨⟨t.definition, overwrite t.definition r t.rows, ?_⟩, ?_, rfl, rfl⟩
  · rw [keys_overwrite]
    exact t.keys_nodup
  · rw [replace, if_pos ht]
    simp only [hl]

lemma replace_of_none (hk : t.key? r = some key) (hf : t.find? key = none) :
    t.replace r = .ok none := by
  have ht : ¬ t.isTaken r = true := by simp [isTaken_of_key hk, hf]
  rw [replace, if_neg ht]

/-- A table after a row was overwritten. -/
lemma rows_of_replace (h : t.replace r = .ok (some t')) :
    t'.definition = t.definition ∧ t'.rows = overwrite t.definition r t.rows := by
  rw [replace] at h
  split at h
  · split at h
    · cases h
    · cases h
      exact ⟨rfl, rfl⟩
  · cases h

lemma find?_replaced (hd : t'.definition = t.definition)
    (hr : t'.rows = overwrite t.definition r t.rows) (key : Cell) :
    t'.find? key = if t.key? r = some key then (t.find? key).map fun _ => r else t.find? key := by
  simp only [find?, key?, hd, hr]
  exact find?_overwrite t.definition r t.rows key

/-! ### Rows taken out -/

lemma erase_of_some (hf : t.find? key = some r) :
    ∃ t', t.erase key = some t' ∧ t'.definition = t.definition ∧
      t'.rows = without t.definition key t.rows :=
  ⟨⟨t.definition, without t.definition key t.rows, t.nodup_without key⟩,
    by rw [erase, if_pos (by simp [hf])], rfl, rfl⟩

lemma erase_of_none (hf : t.find? key = none) : t.erase key = none := by
  rw [erase, if_neg (by simp [hf])]

/-- A table after a row was taken out. -/
lemma rows_of_erase (h : t.erase key = some t') :
    t'.definition = t.definition ∧ t'.rows = without t.definition key t.rows := by
  rw [erase] at h
  split at h
  · cases h
    exact ⟨rfl, rfl⟩
  · cases h

/-- The row under a key after that under another one was taken out. -/
lemma find?_erased (hd : t'.definition = t.definition)
    (hr : t'.rows = without t.definition key t.rows) (key' : Cell) :
    t'.find? key' = if key = key' then none else t.find? key' := by
  simp only [find?, key?, hd, hr, without, List.find?_filter]
  split
  · next h => simp [h]
  · next h =>
    congr 1
    funext x
    by_cases hx : t.definition.key? x = some key'
    · simp [hx, Ne.symm h]
    · simp [hx]

/-- A row that was taken out is not counted any more. -/
lemma length_of_erase (h : t.erase key = some t') : t'.rows.length + 1 = t.rows.length := by
  have hkey : key ∈ t.definition.keys t.rows := by
    rw [erase] at h
    split at h
    · next hsome =>
      obtain ⟨r, hr, hk⟩ := List.find?_isSome.mp hsome
      exact List.mem_filterMap.mpr ⟨r, hr, of_decide_eq_true hk⟩
    · cases h
  have hone : (t.definition.keys t.rows).count key = 1 := by
    rw [t.keys_nodup.count, if_pos hkey]
  rw [TableDef.keys, List.count_filterMap] at hone
  rw [(rows_of_erase h).2, without, ← List.countP_eq_length_filter,
    List.length_eq_countP_add_countP fun x => t.definition.key? x == some key, hone, Nat.add_comm]
  simp

end Table

end LeasedStore
