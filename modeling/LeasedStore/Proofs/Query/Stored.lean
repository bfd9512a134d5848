/-
What criteria say of rows as they are stored.

The row of an entity with a state has columns that its documents repeat, and that nobody reads but
queries.  Whether such a row satisfies a filter is a matter of its columns alone: their contents are
the values of the properties.

* `Row.value`, `Row.meets`: the value of a property in a row, and does the row satisfy a filter?
* `TableDef.Stores`, `Table.IsStored`: do columns hold what their types make of their contents?
* `StoreKind.stores_row`: the columns of the row of an entity do;
* `StoreKind.ofRow_project`: entities are read from the columns that queries read;
* `Row.HoldsValues`: does every column that can be queried hold a value of its kind?
* `StatefulKind.holdsValues_of_ofRow`: it does where the row can be read as an entity;
* `Condition.Says.holds_value`: a condition holds on such a row if its criterion is met there.
-/
import LeasedStore.Proofs.Database.Part

namespace LeasedStore

/-! ### Values in rows -/

/-- What a column holds, as a value.  There are no real numbers where rows can be read as
entities. -/
def PropertyValue.ofCell : Cell → PropertyValue
  | .int n => int n
  | .text s => text (some s)
  | .null | .real _ => text none

@[simp]
lemma PropertyValue.ofCell_cell (v : PropertyValue) : ofCell v.cell = v := by
  cases v with
  | int n => rfl
  | text s => cases s <;> rfl

namespace Row

/-- The value of a property in a row. -/
def value (m : TableMapping) (r : Row) (property : String) : PropertyValue :=
  match m.plainColumn? property with
  | some c => .ofCell (r.cell c.name)
  | none => .text none

/-- Does a row satisfy all criteria of a filter? -/
def meets (m : TableMapping) (filter : List Criterion) (r : Row) : Bool :=
  filter.all fun c => c.isMet (r.value m c.property)

/-- Does every column that can be queried hold a value of its kind? -/
def HoldsValues (m : TableMapping) (r : Row) : Prop :=
  ∀ c ∈ m.columns, c.kind ≠ .json → ∃ v : PropertyValue, v.kind = c.kind ∧ r.cell c.name = v.cell

/-- The column of a property holds its value. -/
lemma HoldsValues.cell_eq {m : TableMapping} {r : Row} {property : String} {c : Column}
    (h : r.HoldsValues m) (hc : m.plainColumn? property = some c) :
    r.cell c.name = (r.value m property).cell ∧ (r.value m property).kind = c.kind := by
  obtain ⟨hcolumn, hkind⟩ := Option.filter_eq_some_iff.mp hc
  obtain ⟨v, hv, hcell⟩ := h c (List.mem_of_find?_eq_some hcolumn) (by simpa using hkind)
  have hvalue : r.value m property = v := by
    rw [value, hc]
    dsimp only
    rw [hcell, PropertyValue.ofCell_cell]
  rw [hvalue]
  exact ⟨hcell, hv⟩

lemma int_eq_ok {r : Row} {column : String} {n : Int64} :
    r.int column = .ok n ↔ r.cell column = .int n := by
  rw [int]
  cases r.cell column <;> simp [unreadable]

end Row

/-! ### What columns store -/

/-- Does every column of a row hold what its type makes of it? -/
def TableDef.Stores (d : TableDef) (r : Row) : Prop :=
  ∀ c ∈ d.columns, c.storage.store (r.cell c.name) = r.cell c.name

/-- Do all columns of a table hold what their types make of it? -/
def Table.IsStored (t : Table) : Prop := ∀ r ∈ t.rows, t.definition.Stores r

/-- A column of texts holds texts and nulls alone. -/
lemma StorageType.value_of_store_text {c : Cell} (h : text.store c = c) :
    ∃ v : PropertyValue, v.kind = .text ∧ c = v.cell := by
  cases c with
  | null => exact ⟨.text none, rfl, rfl⟩
  | text s => exact ⟨.text (some s), rfl, rfl⟩
  | int n => cases h
  | real x => cases h

/-- What a column stores it keeps. -/
lemma StorageType.store_store (s : StorageType) (c : Cell) : s.store (s.store c) = s.store c := by
  cases s with
  | text => cases c <;> rfl
  | bigint =>
      cases c with
      | null => rfl
      | int n => rfl
      | real x =>
          cases hx : x.integer? with
          | none => simp [store, hx]
          | some n => simp [store, hx]
      | text s =>
          rw [store, integerCell]
          cases hw : Decimal.Written.read? s.toList with
          | none => simp [store, integerCell, hw]
          | some w =>
              -- a numeral is stored as a word or a real number, and neither is changed again
              dsimp only
              cases hn : w.integer?.or w.real.integer? with
              | none => simp [store, (Option.or_eq_none_iff.mp hn).2]
              | some n => rfl

/-- The row of some values holds what its columns make of them. -/
lemma TableDef.stores_row {d : TableDef} (hd : (d.columns.map ColumnDef.name).Nodup)
    (params : List Param) : d.Stores (d.row params) := by
  intro c hc
  cases hl : (d.row params).cells.lookup c.name with
  | none =>
      rw [Row.cell, hl]
      cases c.storage <;> rfl
  | some cell =>
      obtain ⟨before, behind, hcells, -⟩ := List.lookup_eq_some_iff.mp hl
      have hmem : (c.name, cell) ∈ (d.row params).cells := by simp [hcells]
      obtain ⟨⟨c', p⟩, hzip, heq⟩ := List.mem_map.mp hmem
      obtain ⟨hname, rfl⟩ := Prod.mk.inj heq
      cases List.inj_on_of_nodup_map hd (List.of_mem_zip hzip).1 hc hname
      rw [Row.cell, hl]
      exact c.storage.store_store p.cell

lemma StoreKind.stores_row (k : StoreKind) (e : k.Record) :
    k.schema.tableDef.Stores (Entity.row e) := by
  have hnodup : (k.schema.tableDef.columns.map ColumnDef.name).Nodup := by
    cases k <;> decide
  exact TableDef.stores_row hnodup (Entity.params e)

/-- A row has the columns that entities are read from, whatever else it has. -/
lemma StoreKind.ofRow_project (k : StoreKind) (r : Row) :
    Entity.ofRow (α := k.Record) (r.project k.schema.mapping.columnNames) = Entity.ofRow r := by
  cases k with
  | asset =>
      change Asset.ofRow (r.project Asset.schema.mapping.columnNames) = Asset.ofRow r
      simp (disch := decide) only [Asset.ofRow, Row.text, Row.int, Row.document, Row.cell_project]
  | policyDefinition =>
      change PolicyDefinition.ofRow (r.project PolicyDefinition.schema.mapping.columnNames) =
        PolicyDefinition.ofRow r
      simp (disch := decide) only [PolicyDefinition.ofRow, Row.text, Row.int, Row.document,
        Row.cell_project]
  | contractDefinition =>
      change ContractDefinition.ofRow (r.project ContractDefinition.schema.mapping.columnNames) =
        ContractDefinition.ofRow r
      simp (disch := decide) only [ContractDefinition.ofRow, Row.text, Row.int, Row.document,
        Row.cell_project]
  | contractNegotiation =>
      change ContractNegotiation.ofRow (r.project ContractNegotiation.schema.mapping.columnNames) =
        ContractNegotiation.ofRow r
      simp (disch := decide) only [ContractNegotiation.ofRow, Row.text, Row.int, Row.text?,
        Row.document?, Row.cell_project]
  | transferProcess =>
      change TransferProcess.ofRow (r.project TransferProcess.schema.mapping.columnNames) =
        TransferProcess.ofRow r
      simp (disch := decide) only [TransferProcess.ofRow, Row.text, Row.int, Row.text?,
        Row.document, Row.cell_project]

/-! ### Entities with a state -/

namespace StatefulKind

variable {k : StatefulKind} {r : Row}

/-- Criteria on entities with a state look at columns alone. -/
lemma plainColumn?_of_target? {property : String} {target : Target}
    (h : k.kind.schema.mapping.target? property = some target) :
    ∃ c, k.kind.schema.mapping.plainColumn? property = some c ∧ target = .column c := by
  rw [TableMapping.target?] at h
  split at h
  · next c hc => exact ⟨c, hc, (Option.some.inj h).symm⟩
  · obtain ⟨name, hname, -⟩ := Option.bind_eq_some_iff.mp h
    cases k <;> cases hname

/-- The columns of integers hold integers where a row can be read as an entity. -/
lemma int_of_ofRow {e : k.kind.Record} (h : Entity.ofRow r = .ok e) :
    ∀ c ∈ k.kind.schema.mapping.columns, c.kind = .integer → ∃ n, r.cell c.name = .int n := by
  cases k with
  | contractNegotiation =>
      change ∀ c ∈ ContractNegotiation.schema.mapping.columns, c.kind = .integer → _
      simp only [ContractNegotiation.schema, List.forall_mem_cons, List.not_mem_nil, reduceCtorEq,
        false_implies, true_implies, implies_true, true_and, and_true]
      iterate 7 obtain ⟨_, -, h⟩ := Except.bind_eq_ok.mp h
      obtain ⟨state, hstate, h⟩ := Except.bind_eq_ok.mp h
      obtain ⟨_, -, h⟩ := Except.bind_eq_ok.mp h
      obtain ⟨count, hcount, h⟩ := Except.bind_eq_ok.mp h
      obtain ⟨since, hsince, h⟩ := Except.bind_eq_ok.mp h
      iterate 2 obtain ⟨_, -, h⟩ := Except.bind_eq_ok.mp h
      obtain ⟨created, hcreated, -⟩ := Except.bind_eq_ok.mp h
      exact ⟨⟨state, Row.int_eq_ok.mp hstate⟩, ⟨count, Row.int_eq_ok.mp hcount⟩,
        ⟨since, Row.int_eq_ok.mp hsince⟩, ⟨created, Row.int_eq_ok.mp hcreated⟩⟩
  | transferProcess =>
      change ∀ c ∈ TransferProcess.schema.mapping.columns, c.kind = .integer → _
      simp only [TransferProcess.schema, List.forall_mem_cons, List.not_mem_nil, reduceCtorEq,
        false_implies, true_implies, implies_true, true_and, and_true]
      iterate 3 obtain ⟨_, -, h⟩ := Except.bind_eq_ok.mp h
      obtain ⟨state, hstate, h⟩ := Except.bind_eq_ok.mp h
      obtain ⟨_, -, h⟩ := Except.bind_eq_ok.mp h
      obtain ⟨count, hcount, h⟩ := Except.bind_eq_ok.mp h
      obtain ⟨since, hsince, h⟩ := Except.bind_eq_ok.mp h
      iterate 2 obtain ⟨_, -, h⟩ := Except.bind_eq_ok.mp h
      obtain ⟨created, hcreated, -⟩ := Except.bind_eq_ok.mp h
      exact ⟨⟨state, Row.int_eq_ok.mp hstate⟩, ⟨count, Row.int_eq_ok.mp hcount⟩,
        ⟨since, Row.int_eq_ok.mp hsince⟩, ⟨created, Row.int_eq_ok.mp hcreated⟩⟩

lemma ofRow_project (k : StatefulKind) (r : Row) :
    Entity.ofRow (α := k.kind.Record) (r.project k.kind.schema.mapping.columnNames) =
      Entity.ofRow r :=
  k.kind.ofRow_project r

/-- Where a row can be read as an entity every column that can be queried holds a value of its kind.
-/
lemma holdsValues_of_ofRow {e : k.kind.Record} (hs : k.kind.schema.tableDef.Stores r)
    (h : Entity.ofRow r = .ok e) : r.HoldsValues k.kind.schema.mapping := by
  intro c hc hkind
  have hstore := hs _ (List.mem_map_of_mem hc)
  cases hk : c.kind with
  | json => exact absurd hk hkind
  | integer =>
      obtain ⟨n, hn⟩ := int_of_ofRow h c hc hk
      exact ⟨.int n, rfl, hn⟩
  | text =>
      rw [EntitySchema.columnDef, hk] at hstore
      exact StorageType.value_of_store_text hstore

end StatefulKind

/-! ### Conditions on rows -/

section Conditions

variable {k : StatefulKind} {params : List Param} {r : Row} {c : Criterion} {cond : Condition}

/-- An expression reads the value of its property. -/
lemma Expr.Reads.datum_value {e : Expr} {target : Target} (h : e.Reads params target)
    (ht : k.kind.schema.mapping.target? c.property = some target)
    (hr : r.HoldsValues k.kind.schema.mapping) :
    e.datum params r = .ok (r.value k.kind.schema.mapping c.property).datum ∧
      (r.value k.kind.schema.mapping c.property).kind = target.kind := by
  obtain ⟨column, hcolumn, rfl⟩ := StatefulKind.plainColumn?_of_target? ht
  obtain ⟨hcell, hkind⟩ := hr.cell_eq hcolumn
  cases h
  rw [datum, hcell]
  exact ⟨rfl, hkind⟩

theorem Condition.Says.holds_value (h : cond.Says params k.kind.schema.mapping c)
    (hr : r.HoldsValues k.kind.schema.mapping) (leases : LeaseTable) :
    cond.holds leases params r = .ok (c.isMet (r.value k.kind.schema.mapping c.property)) :=
  h.holds_of_datum (fun he ht => he.datum_value ht hr) leases

/-- The condition of a criterion comes to a result on every row. -/
lemma Condition.Says.exists_holds_row (h : cond.Says params k.kind.schema.mapping c)
    (leases : LeaseTable) (r : Row) : ∃ held, cond.holds leases params r = .ok held := by
  refine h.exists_holds fun he ht => ?_
  obtain ⟨column, -, rfl⟩ := StatefulKind.plainColumn?_of_target? ht
  cases he
  exact ⟨_, rfl⟩

end Conditions

end LeasedStore
