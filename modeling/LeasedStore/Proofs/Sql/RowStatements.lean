/-
The statements that put a row in and overwrite one, as statements and not only as texts.

Both bind one list of parameters, one for each column.  The number of a column counts all columns in
front of it, the id among them, so wherever the id stands no value ends up in another column.

* `Insertion`, `Overwriting`: the two statements, with `sql` as their text and `row` as what they
  do;
* `Insertion.places_sql`, `Overwriting.places_sql`: the places in their texts;
* `TableDef.store`: what the columns of a table keep of values;
* `TableMapping.insertion`, `TableMapping.overwriting`: the two statements of a table;
* `TableMapping.insertSql_eq`, `TableMapping.updateSql_eq`: the texts that are run are theirs;
* `TableMapping.SharesParams`, `TableMapping.sharesParams`: both statements give every column its
  own parameter;
* `EntitySchema.inserted`, `EntitySchema.updateRows`: what the two statements of a type of entities
  leave, and `StoreKind.inserted_eq_row`, `StoreKind.updateRows_eq_overwrite`: that these are the
  rows of the entities.
-/
import LeasedStore.Proofs.Sql.Assignment
import LeasedStore.Proofs.Sql.Numbering
import LeasedStore.Proofs.Store.Rows
import Mathlib.Data.List.Nodup

namespace LeasedStore

open Text (Shows IsWord plain_append plain_intercalate)

/-! ### Statements -/

/-- A column and the place of its value. -/
abbrev Item := String × Placeholder

/-- What a column keeps of the value at its place, if columns keep values in ways of their own. -/
def Item.stored (store : String → Cell → Cell) (params : List Param) (a : Item) : Cell :=
  store a.1 (a.2.cell params)

/-- A statement that puts in a row: columns, and the places of their values in the same order. -/
structure Insertion where
  table : String
  columns : List String
  values : List Placeholder
  deriving DecidableEq, Repr

namespace Insertion

/-- The columns with the places of their values. -/
def items (i : Insertion) : List Item := i.columns.zip i.values

/-- The text of the statement. -/
def sql (i : Insertion) : String :=
  "INSERT INTO " ++ i.table ++ " (" ++ ", ".intercalate i.columns ++ ") VALUES (" ++
    ", ".intercalate (i.values.map Placeholder.sql) ++ ")"

/-- The row that is put in. -/
def row (i : Insertion) (store : String → Cell → Cell) (params : List Param) : Row :=
  ⟨i.items.map fun a => (a.1, Item.stored store params a)⟩

/-- The places in the text are those of the values. -/
theorem places_sql {i : Insertion} (htable : '$' ∉ i.table.toList)
    (hcolumns : ∀ name ∈ i.columns, '$' ∉ name.toList) :
    Text.places i.sql = i.values.map Placeholder.number := by
  have hclose : IsWord ")" := by simp [IsWord, Text.IsDetached]
  have hlist := plain_intercalate (by simp : '$' ∉ ", ".toList) hcolumns
  have hopen := plain_append (plain_append (by simp : '$' ∉ "INSERT INTO ".toList) htable)
    (by simp : '$' ∉ " (".toList)
  have hstart := plain_append (plain_append hopen hlist) (by simp : '$' ∉ ") VALUES (".toList)
  exact (((Placeholder.shows_intercalate_sql i.values).plain_append hstart).append_word
    hclose).places_eq

end Insertion

/-- A statement that assigns some columns in the row whose key has some value. -/
structure Overwriting where
  table : String
  assignments : List Item
  key : Item
  deriving DecidableEq, Repr

namespace Overwriting

/-- The text of the statement. -/
def sql (o : Overwriting) : String :=
  "UPDATE " ++ o.table ++ " SET " ++
    ", ".intercalate (o.assignments.map fun a => a.1 ++ " = " ++ a.2.sql) ++
    " WHERE " ++ o.key.1 ++ " = " ++ o.key.2.sql

/-- What becomes of a row: if it has the key, and that is not null, its columns are assigned. -/
def row (o : Overwriting) (store : String → Cell → Cell) (params : List Param) (r : Row) : Row :=
  if r.cell o.key.1 ≠ .null ∧ r.cell o.key.1 = Item.stored store params o.key then
    r.assign (o.assignments.map fun a => (a.1, Item.stored store params a))
  else r

/-- The places in the text are those of the assignments, and then that of the key. -/
theorem places_sql {o : Overwriting} (htable : '$' ∉ o.table.toList)
    (hassignments : ∀ a ∈ o.assignments, '$' ∉ a.1.toList) (hkey : '$' ∉ o.key.1.toList) :
    Text.places o.sql = (o.assignments ++ [o.key]).map fun a => a.2.number := by
  have hcomma : IsWord ", " := by simp [IsWord, Text.IsDetached]
  have hwhere : IsWord " WHERE " := by simp [IsWord, Text.IsDetached]
  have hassigned : Shows (", ".intercalate (o.assignments.map fun a => a.1 ++ " = " ++ a.2.sql))
      (o.assignments.flatMap fun a => [a.2.number]) :=
    Text.shows_intercalate hcomma fun a ha =>
      a.2.shows_sql.plain_append (plain_append (hassignments a ha) (by simp))
  have hcompared : Shows (" WHERE " ++ (o.key.1 ++ (" = " ++ o.key.2.sql))) [o.key.2.number] :=
    ((o.key.2.shows_sql.plain_append (by simp)).plain_append hkey).plain_append hwhere.1
  have hall := (hassigned.append hcompared (hwhere.isDetached_append _)).plain_append
    (plain_append (plain_append (by simp : '$' ∉ "UPDATE ".toList) htable)
      (by simp : '$' ∉ " SET ".toList))
  rw [← List.map_eq_flatMap] at hall
  delta sql
  rw [List.map_append, List.map_singleton]
  simpa only [String.append_assoc] using hall.places_eq

end Overwriting

/-! ### Columns and keys of tables -/

namespace TableDef

variable {d : TableDef}

/-- What a column of a table keeps of a value. -/
def store (d : TableDef) (column : String) (c : Cell) : Cell :=
  match d.columns.find? fun x => x.name = column with
  | some x => x.storage.store c
  | none => c

/-- A column keeps values as its type wants it, if no other one has its name. -/
lemma store_of_mem (hn : (d.columns.map ColumnDef.name).Nodup) {x : ColumnDef}
    (hx : x ∈ d.columns) (c : Cell) : d.store x.name c = x.storage.store c := by
  have hsome : (d.columns.find? fun y => y.name = x.name).isSome :=
    List.find?_isSome.mpr ⟨x, hx, decide_eq_true rfl⟩
  obtain ⟨y, hy⟩ := Option.isSome_iff_exists.mp hsome
  have hname : y.name = x.name := by simpa using List.find?_some hy
  obtain rfl : y = x := List.inj_on_of_nodup_map hn (List.mem_of_find?_eq_some hy) hx hname
  rw [store, hy]

lemma key?_eq_iff {r r' : Row} : ((d.key? r).isSome ∧ d.key? r = d.key? r') ↔
    r.cell d.key ≠ .null ∧ r.cell d.key = r'.cell d.key := by
  rw [key?, key?]
  cases r.cell d.key <;> cases r'.cell d.key <;> simp

end TableDef

/-! ### The statements of a table -/

namespace TableMapping

variable {m : TableMapping}

/-- The statement that puts a row into a table. -/
def insertion (m : TableMapping) : Insertion where
  table := m.table
  columns := m.columnNames
  values := Placeholder.upTo m.columns.length

/-- The statement that overwrites a row of a table, if its id is at some place. -/
def overwriting (m : TableMapping) (id : Placeholder) : Overwriting where
  table := m.table
  assignments := m.insertion.items.filter fun a => a.1 ≠ m.idColumn
  key := (m.idColumn, id)

lemma items_insertion (m : TableMapping) :
    m.insertion.items = m.placed.map fun c => (c.1.name, c.2) := by
  rw [Insertion.items, insertion, columnNames, placed, List.zip_map_left]
  rfl

lemma map_fst_items (m : TableMapping) : m.insertion.items.map Prod.fst = m.columnNames :=
  List.map_fst_zip (by simp [insertion, columnNames, Placeholder.upTo])

lemma map_snd_items (m : TableMapping) :
    m.insertion.items.map Prod.snd = Placeholder.upTo m.columns.length :=
  List.map_snd_zip (by simp [insertion, columnNames, Placeholder.upTo])

lemma map_number_upTo (n : Nat) :
    (Placeholder.upTo n).map Placeholder.number = List.range' 1 n := by
  rw [Placeholder.upTo, List.map_map, List.range'_eq_map_range]
  exact List.map_congr_left fun k _ => Nat.add_comm k 1

/-- The text that is written is that of the statement. -/
lemma insertSql_eq (m : TableMapping) : m.insertSql = m.insertion.sql := by
  have hvalues : (m.placed.map fun c => c.2.sql) =
      (Placeholder.upTo m.columns.length).map Placeholder.sql := by
    rw [← map_snd_items, items_insertion, List.map_map, List.map_map]
    rfl
  -- the definition is opened as it stands: its equation would take long to generate
  delta insertSql
  rw [hvalues]
  rfl

/-- So is the text of the other one. -/
lemma updateSql_eq {id : Placeholder} (h : m.idPlace? = some id) :
    m.updateSql = (m.overwriting id).sql := by
  have hassignments : m.assignments.map (fun c => c.1.name ++ " = " ++ c.2.sql) =
      (m.overwriting id).assignments.map fun a => a.1 ++ " = " ++ a.2.sql := by
    rw [overwriting, items_insertion, List.filter_map, List.map_map]
    rfl
  delta updateSql
  rw [hassignments, h]
  rfl

/-- There is one place for the id if it is one of the columns, and no two columns have one name. -/
lemma exists_idPlace (hn : m.columnNames.Nodup) (hid : m.idColumn ∈ m.columnNames) :
    ∃ id, m.idPlace? = some id ∧
      (m.insertion.items.filter fun a => a.1 = m.idColumn) = [(m.idColumn, id)] := by
  have hnames : (m.insertion.items.filter fun a => a.1 = m.idColumn).map Prod.fst =
      [m.idColumn] := by
    rw [← Function.comp_def (fun name => decide (name = m.idColumn)) Prod.fst, ← List.filter_map,
      map_fst_items, List.filter_eq, List.count_eq_one_of_mem hn hid]
    rfl
  obtain ⟨⟨name, id⟩, hitem, rfl⟩ := List.map_eq_singleton_iff.mp hnames
  refine ⟨id, ?_, hitem⟩
  rw [items_insertion, List.filter_map] at hitem
  obtain ⟨c, hc, hplace⟩ := List.map_eq_singleton_iff.mp hitem
  have hplaced : (m.placed.filter fun c => c.1.name = m.idColumn) = [c] := hc
  rw [idPlace?, hplaced]
  exact congrArg some (Prod.mk.inj hplace).2

/-- The places of an update are those of all columns, that of the id being the last. -/
lemma perm_items {id : Placeholder}
    (h : (m.insertion.items.filter fun a => a.1 = m.idColumn) = [(m.idColumn, id)]) :
    ((m.overwriting id).assignments ++ [(m.overwriting id).key]).Perm m.insertion.items := by
  have hrest : (fun a : Item => !decide (a.1 ≠ m.idColumn)) =
      fun a => decide (a.1 = m.idColumn) := by
    funext a
    simp
  have hperm := List.filter_append_perm (fun a => decide (a.1 ≠ m.idColumn)) m.insertion.items
  rwa [hrest, h] at hperm

/-! ### What the statements do -/

variable {store : String → Cell → Cell} {params : List Param}

lemma names_row_insertion (m : TableMapping) (store : String → Cell → Cell) (params : List Param) :
    (m.insertion.row store params).names = m.columnNames := by
  rw [Row.names, Insertion.row, List.map_map, ← map_fst_items]
  rfl

/-- Every column has what stands at its place. -/
lemma cell_row_insertion (hn : m.columnNames.Nodup) {a : Item} (ha : a ∈ m.insertion.items) :
    (m.insertion.row store params).cell a.1 = a.stored store params := by
  have hcells := names_row_insertion m store params ▸ hn
  rw [Row.cell, Row.lookup_of_mem (x := (a.1, a.stored store params)) hcells
    (List.mem_map_of_mem ha)]
  rfl

/-- The place of a column is its number, counted from one. -/
lemma getElem?_items {n : Nat} {name : String} (h : m.columnNames[n]? = some name) :
    m.insertion.items[n]? = some (name, ⟨n + 1⟩) := by
  have hn : n < m.columns.length := by
    have hlt := (List.getElem?_eq_some_iff.mp h).1
    rwa [columnNames, List.length_map] at hlt
  refine List.getElem?_zip_eq_some.mpr ⟨h, ?_⟩
  simp [insertion, Placeholder.upTo, hn]

/-- A row of the same id becomes the row that is put in. -/
lemma row_overwriting {id : Placeholder} {r : Row} (hn : m.columnNames.Nodup)
    (hitem : (m.idColumn, id) ∈ m.insertion.items) (hr : r.names = m.columnNames)
    (hnull : r.cell m.idColumn ≠ .null)
    (hid : r.cell m.idColumn = (m.insertion.row store params).cell m.idColumn) :
    (m.overwriting id).row store params r = m.insertion.row store params := by
  have hassigned : ((m.overwriting id).assignments.map fun a => (a.1, a.stored store params)) =
      (m.insertion.row store params).cells.filter fun c => c.1 ≠ m.idColumn := by
    rw [Insertion.row, List.filter_map]
    rfl
  rw [Overwriting.row, if_pos ⟨hnull, hid.trans (cell_row_insertion hn hitem)⟩, hassigned]
  exact Row.assign_eq (hr.trans (names_row_insertion m store params).symm)
    (by rwa [names_row_insertion]) hid

section Tables

variable {d : TableDef}

/-- The row that is put in is that of the parameters, if there is one for each column. -/
lemma row_insertion_eq_row (hn : m.columnNames.Nodup)
    (hd : d.columns.map ColumnDef.name = m.columnNames)
    (hparams : params.length = m.columns.length) :
    m.insertion.row d.store params = d.row params := by
  have hlength : d.columns.length = m.columns.length := by
    simpa [columnNames] using congrArg List.length hd
  refine congrArg Row.mk (List.ext_getElem ?_ fun n hrow hrow' => ?_)
  · simp [Insertion.items, insertion, columnNames, Placeholder.upTo, hlength, hparams]
  · rw [List.length_map, List.length_zip] at hrow'
    have hcolumn : n < d.columns.length := by omega
    have hparam : n < params.length := by omega
    have hname : m.columnNames[n]? = some d.columns[n].name := by
      rw [← hd, List.getElem?_map, List.getElem?_eq_getElem hcolumn]
      rfl
    obtain ⟨_, hitem⟩ := List.getElem?_eq_some_iff.mp (getElem?_items hname)
    rw [List.getElem_map, List.getElem_map, hitem, List.getElem_zip, Item.stored,
      TableDef.store_of_mem (hd ▸ hn) (List.getElem_mem hcolumn)]
    simp [Placeholder.cell, Placeholder.param?, hparam]

/-- Rows are overwritten as in a table if those that have the key have its columns. -/
lemma map_row_overwriting {id : Placeholder} {rows : List Row} (hn : m.columnNames.Nodup)
    (hitem : (m.idColumn, id) ∈ m.insertion.items)
    (hd : d.columns.map ColumnDef.name = m.columnNames) (hkey : d.key = m.idColumn)
    (hparams : params.length = m.columns.length)
    (hrows : ∀ r ∈ rows, d.key? r = d.key? (d.row params) → r.names = m.columnNames) :
    rows.map ((m.overwriting id).row d.store params) = Table.overwrite d (d.row params) rows := by
  have hrow := row_insertion_eq_row hn hd hparams
  refine List.map_congr_left fun r hr => ?_
  by_cases h : (d.key? r).isSome ∧ d.key? r = d.key? (d.row params)
  · obtain ⟨hnull, hsame⟩ := TableDef.key?_eq_iff.mp h
    rw [hkey] at hnull hsame
    rw [if_pos h, ← hrow]
    exact row_overwriting hn hitem (hrows r hr h.2) hnull (hsame.trans (by rw [hrow]))
  · rw [if_neg h, Overwriting.row, if_neg]
    rintro ⟨hnull, hsame⟩
    refine h (TableDef.key?_eq_iff.mpr ?_)
    rw [hkey, ← hrow, cell_row_insertion hn hitem]
    exact ⟨hnull, hsame⟩

end Tables

/-! ### One list of parameters -/

/-- Do the statements that put a row in and overwrite one give every column of a table its own
parameter? -/
structure SharesParams (m : TableMapping) (i : Insertion) (o : Overwriting) : Prop where
  table : i.table = m.table ∧ o.table = m.table
  /-- All columns are put in, in their order, with the places from one on. -/
  columns : i.columns = m.columnNames
  values : i.values.map Placeholder.number = List.range' 1 m.columns.length
  /-- All columns but the id are assigned, in their order, and there are some. -/
  assigned : o.assignments.map Prod.fst = m.columnNames.filter fun name => name ≠ m.idColumn
  hasAssignments : o.assignments ≠ []
  /-- The id is compared. -/
  compared : o.key.1 = m.idColumn
  /-- What is assigned and what is compared has the place that it is put in with. -/
  samePlaces : ∀ a ∈ o.key :: o.assignments, a ∈ i.items
  /-- So every place is used once. -/
  allPlaces : ((o.assignments ++ [o.key]).map fun a => a.2.number).Perm
    (List.range' 1 m.columns.length)
  /-- This is what the texts show, if no name looks like a place. -/
  shown : m.HasPlainNames → Text.places i.sql = i.values.map Placeholder.number ∧
    Text.places o.sql = (o.assignments ++ [o.key]).map fun a => a.2.number
  /-- Every column is put in with its own parameter. -/
  own : ∀ (store : String → Cell → Cell) (params : List Param) (n : Nat) (name : String)
      (v : Param),
    m.columnNames[n]? = some name → params[n]? = some v →
      (i.row store params).cell name = store name v.cell
  /-- A row of the same id becomes the row that is put in, whatever it held. -/
  same : ∀ store params r, r.names = m.columnNames → r.cell m.idColumn ≠ .null →
    r.cell m.idColumn = (i.row store params).cell m.idColumn →
      o.row store params r = i.row store params
  /-- The rows of a table with these columns and this key are put in and overwritten so. -/
  written : ∀ (d : TableDef) (params : List Param), d.columns.map ColumnDef.name = m.columnNames →
    d.key = m.idColumn → params.length = m.columns.length → i.row d.store params = d.row params ∧
      ∀ rows : List Row, (∀ r ∈ rows, r.names = m.columnNames) →
        rows.map (o.row d.store params) = Table.overwrite d (d.row params) rows

/-- Where no two columns have one name and the id is one of several columns, one list of parameters
is for both statements: each of them gives every column its own parameter. -/
theorem sharesParams (hn : m.columnNames.Nodup) (hid : m.idColumn ∈ m.columnNames)
    (hother : ∃ name ∈ m.columnNames, name ≠ m.idColumn) :
    ∃ i o, m.insertSql = i.sql ∧ m.updateSql = o.sql ∧ m.SharesParams i o := by
  obtain ⟨id, hplace, hfilter⟩ := exists_idPlace hn hid
  have hperm := perm_items hfilter
  have hassigned : (m.overwriting id).assignments.map Prod.fst =
      m.columnNames.filter fun name => name ≠ m.idColumn := by
    -- both statements pair the same columns with the same places, only the id comes last in the
    -- update
    rw [← map_fst_items, List.filter_map]
    rfl
  have hplaces : ∀ a ∈ (m.overwriting id).key :: (m.overwriting id).assignments,
      a ∈ m.insertion.items := fun a ha =>
    hperm.subset ((List.perm_append_singleton ..).symm.subset ha)
  refine ⟨m.insertion, m.overwriting id, m.insertSql_eq, updateSql_eq hplace, ⟨rfl, rfl⟩, rfl,
    map_number_upTo _, hassigned, ?hasAssignments, rfl, hplaces, ?allPlaces, ?shown, ?own, ?same,
    ?written⟩
  case hasAssignments =>
    intro hnil
    obtain ⟨name, hname, hne⟩ := hother
    rw [hnil] at hassigned
    have hmem : name ∈ m.columnNames.filter fun name => name ≠ m.idColumn :=
      List.mem_filter.mpr ⟨hname, decide_eq_true hne⟩
    rw [← hassigned] at hmem
    cases hmem
  case allPlaces =>
    have hnumbers : (m.insertion.items.map fun a => a.2.number) =
        List.range' 1 m.columns.length := by
      rw [← map_number_upTo, ← map_snd_items, List.map_map]
      rfl
    exact hnumbers ▸ hperm.map fun a => a.2.number
  case shown =>
    intro hplain
    refine ⟨Insertion.places_sql hplain.table hplain.columnNames,
      Overwriting.places_sql hplain.table (fun a ha => ?_) hplain.idColumn⟩
    have hname : a.1 ∈ m.columnNames.filter fun name => name ≠ m.idColumn :=
      hassigned ▸ List.mem_map_of_mem ha
    exact hplain.columnNames a.1 (List.mem_of_mem_filter hname)
  case own =>
    intro store params n name v hname hv
    have hcell : (⟨n + 1⟩ : Placeholder).cell params = v.cell := by
      simp [Placeholder.cell, Placeholder.param?, hv]
    rw [cell_row_insertion hn (List.mem_of_getElem? (getElem?_items hname)), Item.stored, hcell]
  case same =>
    intro store params r hr hnull hsame
    exact row_overwriting hn (hplaces _ (List.mem_cons_self ..)) hr hnull hsame
  case written =>
    intro d params hd hkey hparams
    exact ⟨row_insertion_eq_row hn hd hparams, fun rows hrows =>
      map_row_overwriting hn (hplaces _ (List.mem_cons_self ..)) hd hkey hparams
        fun r hr _ => hrows r hr⟩

/-- An id that is neither first nor last leaves the other columns their places. -/
theorem sharesParams_of_id_between :
    let m : TableMapping := ⟨"t", "k",
      [⟨"a", "a", .text⟩, ⟨"b", "b", .integer⟩, ⟨"key", "k", .text⟩,
      ⟨"d", "d", .json⟩], none⟩
    (m.columnNames.Nodup ∧ m.idColumn ∈ m.columnNames ∧ ∃ name ∈ m.columnNames, name ≠ m.idColumn) ∧
      (∃ i o, m.insertSql = i.sql ∧ m.updateSql = o.sql ∧ m.SharesParams i o) ∧
      m.insertSql = "INSERT INTO t (a, b, k, d) VALUES ($1, $2, $3, $4)" ∧
      m.updateSql = "UPDATE t SET a = $1, b = $2, d = $4 WHERE k = $3" := by
  intro m
  have hn : m.columnNames.Nodup := by decide
  have hid : m.idColumn ∈ m.columnNames := by decide
  have hother : ∃ name ∈ m.columnNames, name ≠ m.idColumn := by decide
  exact ⟨⟨hn, hid, hother⟩, sharesParams hn hid hother, by decide +kernel, by decide +kernel⟩

end TableMapping

/-! ### The statements of entities -/

namespace EntitySchema

variable {s : EntitySchema} {params : List Param}

/-- The row that is put in. -/
def inserted (s : EntitySchema) (params : List Param) : Row :=
  s.mapping.insertion.row s.tableDef.store params

/-- All rows after one of them was overwritten, if there is a place for its id. -/
def updateRows (s : EntitySchema) (params : List Param) (rows : List Row) : List Row :=
  match s.mapping.idPlace? with
  | some id => rows.map ((s.mapping.overwriting id).row s.tableDef.store params)
  | none => rows

lemma map_name_columns (s : EntitySchema) :
    s.tableDef.columns.map ColumnDef.name = s.mapping.columnNames :=
  List.map_map

lemma inserted_eq_row (hn : s.mapping.columnNames.Nodup)
    (h : params.length = s.mapping.columns.length) : s.inserted params = s.tableDef.row params :=
  TableMapping.row_insertion_eq_row hn s.map_name_columns h

/-- Rows are overwritten as the table does it, if the one that has the id has all columns. -/
lemma updateRows_eq_overwrite {rows : List Row} (hn : s.mapping.columnNames.Nodup)
    (hid : s.mapping.idColumn ∈ s.mapping.columnNames)
    (h : params.length = s.mapping.columns.length)
    (hrows : ∀ r ∈ rows, s.tableDef.key? r = s.tableDef.key? (s.tableDef.row params) →
      r.names = s.mapping.columnNames) :
    s.updateRows params rows = Table.overwrite s.tableDef (s.tableDef.row params) rows := by
  obtain ⟨id, hplace, hitem⟩ := TableMapping.exists_idPlace hn hid
  have hmem : (s.mapping.idColumn, id) ∈ s.mapping.insertion.items :=
    List.mem_of_mem_filter (hitem ▸ List.mem_singleton_self _)
  rw [updateRows, hplace]
  exact TableMapping.map_row_overwriting hn hmem s.map_name_columns rfl h hrows

end EntitySchema

namespace StoreKind

variable {k : StoreKind} {rows : List Row}

lemma nodup_columnNames (k : StoreKind) : k.schema.mapping.columnNames.Nodup := by
  cases k <;> decide

lemma length_params (e : k.Record) :
    (Entity.params e).length = k.schema.mapping.columns.length := by
  cases k <;> rfl

lemma inserted_eq_row (e : k.Record) : k.schema.inserted (Entity.params e) = Entity.row e :=
  EntitySchema.inserted_eq_row k.nodup_columnNames (length_params e)

/-- The statement that overwrites a row puts that of the entity in its place. -/
theorem updateRows_eq_overwrite {e : k.Record}
    (h : ∀ r ∈ rows, k.schema.tableDef.key? r = some (.text (Entity.id e)) →
      r.names = k.schema.mapping.columnNames) :
    k.schema.updateRows (Entity.params e) rows =
      Table.overwrite k.schema.tableDef (Entity.row e) rows := by
  have hkey : k.schema.tableDef.key? (Entity.row e) = some (.text (Entity.id e)) :=
    LawfulEntity.key?_row e
  exact EntitySchema.updateRows_eq_overwrite k.nodup_columnNames k.idColumn_mem_columnNames
    (length_params e) fun r hr hid => h r hr (hid.trans hkey)

end StoreKind

end LeasedStore
