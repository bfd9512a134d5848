/-
Tables: rows under a definition, with distinct keys.

* `Param.cell`, `StorageType.store`: what a bound value becomes in a column of some type;
* `Table`: rows whose keys are distinct, nulls aside;
* `Table.insert`, `Table.replace`, `Table.erase`: a row put in, overwritten, taken out;
* `Table.setCell`: a single cell overwritten.
-/
import LeasedStore.Decimal.Written
import LeasedStore.Database.Row
import LeasedStore.Sql.Schema

namespace LeasedStore

open Decimal (Written)

/-- The cell of a value that is bound to a statement. -/
def Param.cell : Param → Cell
  | text s => .text s
  | nullableText (some s) => .text s
  | nullableText none => .null
  | int n => .int n
  | nullableInt (some n) => .int n
  | nullableInt none => .null

/-! ### What columns store -/

namespace StorageType

/-- What a column of integers stores of a text: a word that is written as such, else the real number
that is written, as a word where it is one; what is no number stays a text. -/
def integerCell (s : String) : Cell :=
  match Written.read? s.toList with
  | none => .text s
  | some w =>
    match w.integer?.or w.real.integer? with
    | some n => .int n
    | none => .real w.real

/-- What a column of a type stores of a cell: numbers as numerals in a column of texts, numerals as
numbers in a column of integers. -/
def store : StorageType → Cell → Cell
  | text, .int n => .text (Numeral.ofInt64 n)
  | text, .real x => .text x.text
  | bigint, .text s => integerCell s
  | bigint, .real x => (x.integer?.map Cell.int).getD (.real x)
  | _, c => c

end StorageType

namespace TableDef

/-- The row of some values for the columns, in their order. -/
def row (d : TableDef) (params : List Param) : Row :=
  ⟨(d.columns.zip params).map fun c => (c.1.name, c.1.storage.store c.2.cell)⟩

/-- The key of a row; none if it is null. -/
def key? (d : TableDef) (r : Row) : Option Cell :=
  match r.cell d.key with
  | .null => none
  | c => some c

/-- The first column that wants a value and has none in a row. -/
def lacking? (d : TableDef) (r : Row) : Option ColumnDef :=
  d.columns.find? fun c => c.isRequired && r.cell c.name = .null

/-- The keys of some rows, nulls aside. -/
def keys (d : TableDef) (rows : List Row) : List Cell := rows.filterMap d.key?

end TableDef

/-- Rows under a definition. -/
structure Table where
  definition : TableDef
  rows : List Row
  keys_nodup : (definition.keys rows).Nodup

namespace Table

/-- The table of a definition, without rows. -/
def empty (d : TableDef) : Table := ⟨d, [], .nil⟩

/-- The name of a table. -/
def name (t : Table) : String := t.definition.name

/-- The key of a row; none if it is null. -/
def key? (t : Table) (r : Row) : Option Cell := t.definition.key? r

/-- The row under a key. -/
def find? (t : Table) (key : Cell) : Option Row := t.rows.find? fun r => t.key? r = some key

/-- Is the key of a row that of a row in the table? -/
def isTaken (t : Table) (r : Row) : Bool :=
  match t.key? r with
  | some key => (t.find? key).isSome
  | none => false

/-- The refusal of a row whose key is taken. -/
def duplicate (t : Table) : DatabaseError := .uniqueViolation t.name t.definition.key

/-- The refusal of a row that lacks a value. -/
def lacking (t : Table) (c : ColumnDef) : DatabaseError := .notNullViolation t.name c.name

/-! ### Rows put in -/

/-- A row whose key is not taken keeps the keys distinct. -/
theorem nodup_append {t : Table} {r : Row} (h : ¬ t.isTaken r = true) :
    (t.definition.keys (t.rows ++ [r])).Nodup := by
  simp only [TableDef.keys, List.filterMap_append, List.nodup_append]
  refine ⟨t.keys_nodup, ?_, ?_⟩
  · cases hk : t.definition.key? r <;> simp [hk]
  · intro a ha b hb hab
    obtain ⟨x, hx, hxa⟩ := List.mem_filterMap.1 ha
    have hb' : t.definition.key? r = some b := by
      cases hk : t.definition.key? r <;> simp_all
    have hsome : (t.find? b).isSome := List.find?_isSome.2 ⟨x, hx, by
      simp [key?, hxa, hab]⟩
    simp [isTaken, key?, hb', hsome] at h

/-- The table with one more row, unless it lacks a value or its key is taken. -/
def insert (t : Table) (r : Row) : Except DatabaseError Table :=
  match t.definition.lacking? r with
  | some c => .error (t.lacking c)
  | none =>
    if h : t.isTaken r = true then .error t.duplicate
    else .ok ⟨t.definition, t.rows ++ [r], nodup_append h⟩

/-! ### Rows overwritten -/

/-- Rows with one in place of that under the same key: what is left by a statement that assigns all
columns but the key (`TableMapping.map_row_overwriting`). -/
def overwrite (d : TableDef) (r : Row) (rows : List Row) : List Row :=
  rows.map fun x => if (d.key? x).isSome ∧ d.key? x = d.key? r then r else x

/-- Overwriting a row keeps the keys. -/
theorem keys_overwrite (d : TableDef) (r : Row) (rows : List Row) :
    d.keys (overwrite d r rows) = d.keys rows := by
  induction rows with
  | nil => rfl
  | cons x rest ih =>
    have hx : d.key? (if (d.key? x).isSome ∧ d.key? x = d.key? r then r else x) = d.key? x := by
      split <;> simp_all
    simp only [TableDef.keys, overwrite, List.map_cons, List.filterMap_cons, hx] at ih ⊢
    rw [ih]

/-- The table with a row in place of that under the same key; nothing if there is none. -/
def replace (t : Table) (r : Row) : Except DatabaseError (Option Table) :=
  if t.isTaken r then
    match t.definition.lacking? r with
    | some c => .error (t.lacking c)
    | none =>
      .ok (some ⟨t.definition, overwrite t.definition r t.rows, by
        rw [keys_overwrite]; exact t.keys_nodup⟩)
  else .ok none

/-! ### Rows taken out -/

/-- Rows without that under a key. -/
def without (d : TableDef) (key : Cell) (rows : List Row) : List Row :=
  rows.filter fun x => d.key? x ≠ some key

theorem nodup_without (t : Table) (key : Cell) :
    (t.definition.keys (without t.definition key t.rows)).Nodup :=
  t.keys_nodup.sublist (List.filter_sublist.filterMap _)

/-- The table without the row under a key; nothing if there is none. -/
def erase (t : Table) (key : Cell) : Option Table :=
  if (t.find? key).isSome then
    some ⟨t.definition, without t.definition key t.rows, t.nodup_without key⟩
  else none

/-! ### Single cells -/

/-- The table with another content of a column in the row under a key, and the number of rows
changed. -/
def setCell (t : Table) (key : Cell) (column : String) (c : Cell) :
    Except DatabaseError (Nat × Table) :=
  match t.definition.columns.find? fun d => d.name = column with
  | none => .error (.noSuchColumn column)
  | some d =>
    match t.find? key with
    | none => .ok (0, t)
    | some r =>
      let changed := r.set column (d.storage.store c)
      match t.definition.lacking? changed with
      | some c => .error (t.lacking c)
      | none =>
        let rows := t.rows.map fun x => if t.key? x = some key then changed else x
        if h : (t.definition.keys rows).Nodup then .ok (1, ⟨t.definition, rows, h⟩)
        else .error t.duplicate

end Table

end LeasedStore
