/-
What the rows satisfy that a query answers.

A row may hold anything that somebody has written into its columns.  Where an entity is read from a
row that a query answers, every criterion of the query holds of what the row holds, those included
that nobody looked at, since another one fixes their column.

* `Target.datum`, `Criterion.HoldsOn`: what a criterion looks at in a row, and does it hold there?
* `Condition.Says.holdsOn`, `holds_of_holdsOn`: a criterion holds on a row if its condition does,
  and the other way round;
* `Select.Bound.isMatch_iff_holdsOn`: the rows that match are those that satisfy all criteria;
* `EntityStore.exists_row_of_readRows`: the rows that the entities of an answer are read from.
-/
import LeasedStore.Proofs.Query.Stored
import LeasedStore.Proofs.Store.Search

namespace LeasedStore

/-! ### Criteria on rows -/

/-- What a criterion looks at in a row. -/
def Target.datum (r : Row) : Target → Except DatabaseError Datum
  | column c => .ok (.ofCell (r.cell c.name))
  | member c keys =>
    (memberText (JsonPath.text keys) (r.cell c.name)).map fun s => (s.map Datum.text).getD .null

/-- Does a comparison hold between what a row has and what an operand stands for there? -/
def Comparison.HoldsOf (op : Comparison) (table property : String) (kind : ColumnKind) (d : Datum)
    (o : Operand) : Prop :=
  ∃ v, coerce table property kind o = .ok v ∧ op.holds d (.ofCell v.cell) = true

/-- Does a criterion hold on a row, whatever the row holds? -/
def Criterion.HoldsOn (m : TableMapping) (r : Row) (c : Criterion) : Prop :=
  ∃ target d, m.target? c.property = some target ∧ target.datum r = .ok d ∧
    match c.operator with
    | .compare op => op.HoldsOf m.table c.property target.kind d c.operand
    | .oneOf => ∃ o ∈ c.operand.items,
        Comparison.equal.HoldsOf m.table c.property target.kind d o

section Says

variable {params : List Param} {m : TableMapping} {r : Row} {c : Criterion} {cond : Condition}
  {leases : LeaseTable}

lemma Expr.Reads.datum_eq {e : Expr} {target : Target} (h : e.Reads params target) (r : Row) :
    e.datum params r = target.datum r := by
  cases h with
  | column c => rfl
  | member c keys path hp => rw [datum, Placeholder.cell, hp]; rfl

lemma Placeholder.datum_of_param? {p : Placeholder} {v : Param} (h : p.param? params = some v) :
    p.datum params = .ofCell v.cell := by
  rw [datum, cell, h]
  rfl

/-- A criterion holds on a row if its condition does. -/
theorem Condition.Says.holdsOn (h : cond.Says params m c)
    (hholds : cond.holds leases params r = .ok true) : c.HoldsOn m r := by
  cases h with
  | compare target ht e he op ho hlike p hp =>
      obtain ⟨v, hv, hparam⟩ := hp
      obtain ⟨d, hd, hheld⟩ := Except.map_eq_ok.mp hholds
      rw [he.datum_eq] at hd
      rw [Placeholder.datum_of_param? hparam] at hheld
      refine ⟨target, d, ht, hd, ?_⟩
      rw [ho]
      exact ⟨v, hv, hheld⟩
  | oneOf target ht e he ho ps hp =>
      obtain ⟨d, hd, hheld⟩ := Except.map_eq_ok.mp hholds
      obtain ⟨p, hmem, hheld⟩ := List.any_eq_true.mp hheld
      obtain ⟨o, ho', v, hv, hparam⟩ := exists_of_forall₂ hp hmem
      rw [he.datum_eq] at hd
      rw [Placeholder.datum_of_param? hparam] at hheld
      refine ⟨target, d, ht, hd, ?_⟩
      rw [ho]
      exact ⟨o, ho', v, hv, hheld⟩
  | never target ht ho hempty => cases hholds

/-- A condition holds on a row if its criterion does. -/
theorem Condition.Says.holds_of_holdsOn (h : cond.Says params m c) (hc : c.HoldsOn m r) :
    cond.holds leases params r = .ok true := by
  obtain ⟨target', d, ht', hd, hmeaning⟩ := hc
  cases h with
  | compare target ht e he op ho hlike p hp =>
      cases ht'.symm.trans ht
      obtain ⟨v, hv, hparam⟩ := hp
      rw [ho] at hmeaning
      obtain ⟨v', hv', hheld⟩ := hmeaning
      cases hv'.symm.trans hv
      rw [holds, he.datum_eq, hd, Placeholder.datum_of_param? hparam]
      exact congrArg Except.ok hheld
  | oneOf target ht e he ho ps hp =>
      cases ht'.symm.trans ht
      rw [ho] at hmeaning
      obtain ⟨o, hmem, v', hv', hheld⟩ := hmeaning
      obtain ⟨p, hp, v, hv, hparam⟩ := exists_of_forall₂ hp.flip hmem
      cases hv'.symm.trans hv
      rw [holds, he.datum_eq, hd]
      refine congrArg Except.ok (List.any_eq_true.mpr ⟨p, hp, ?_⟩)
      rw [Placeholder.datum_of_param? hparam]
      exact hheld
  | never target ht ho hempty =>
      rw [ho, hempty] at hmeaning
      obtain ⟨o, hmem, -⟩ := hmeaning
      cases hmem

/-- All conditions hold on a row if all criteria do. -/
lemma Condition.holds_iff_holdsOn {filter : List Criterion} {conditions : List Condition}
    (h : List.Forall₂ (fun c cond => Condition.Says params m c cond) filter conditions) :
    (∀ cond ∈ conditions, cond.holds leases params r = .ok true) ↔
      ∀ c ∈ filter, c.HoldsOn m r := by
  constructor
  · intro hheld c hc
    obtain ⟨cond, hcond, hsays⟩ := exists_of_forall₂ h.flip hc
    exact hsays.holdsOn (hheld cond hcond)
  · intro hall cond hcond
    obtain ⟨c, hc, hsays⟩ := exists_of_forall₂ h hcond
    exact hsays.holds_of_holdsOn (hall c hc)

end Says

/-! ### Entities that are answered -/

/-- The columns of integers hold integers if they are all the one of the instant of creation, and
that one does. -/
lemma Row.int_of_created {columns : List Column} {r : Row} {created : Int64}
    (hname : ∀ c ∈ columns, c.kind = .integer → c.name = "created_at")
    (h : r.int "created_at" = .ok created) :
    ∀ c ∈ columns, c.kind = .integer → ∃ n, r.cell c.name = .int n := by
  intro c hc hkind
  rw [hname c hc hkind]
  exact ⟨created, int_eq_ok.mp h⟩

/-- The columns of integers hold integers where a row can be read as an entity. -/
lemma StoreKind.int_of_ofRow {k : StoreKind} {r : Row} {e : k.Record}
    (h : Entity.ofRow (r.project k.schema.mapping.columnNames) = .ok e) :
    ∀ c ∈ k.schema.mapping.columns, c.kind = .integer → ∃ n, r.cell c.name = .int n := by
  intro c hc hkind
  have hname : c.name ∈ k.schema.mapping.columnNames := List.mem_map_of_mem hc
  suffices hint : ∃ n, (r.project k.schema.mapping.columnNames).cell c.name = .int n by
    rwa [Row.cell_project hname] at hint
  -- all columns in front of the last one are read first, and succeed
  generalize r.project k.schema.mapping.columnNames = r' at h ⊢
  cases k with
  | asset =>
      iterate 3 obtain ⟨_, -, h⟩ := Except.bind_eq_ok.mp h
      obtain ⟨created, hcreated, -⟩ := Except.bind_eq_ok.mp h
      exact Row.int_of_created (by decide) hcreated c hc hkind
  | policyDefinition =>
      iterate 2 obtain ⟨_, -, h⟩ := Except.bind_eq_ok.mp h
      obtain ⟨created, hcreated, -⟩ := Except.bind_eq_ok.mp h
      exact Row.int_of_created (by decide) hcreated c hc hkind
  | contractDefinition =>
      iterate 4 obtain ⟨_, -, h⟩ := Except.bind_eq_ok.mp h
      obtain ⟨created, hcreated, -⟩ := Except.bind_eq_ok.mp h
      exact Row.int_of_created (by decide) hcreated c hc hkind
  | contractNegotiation =>
      exact StatefulKind.int_of_ofRow (k := .contractNegotiation) h c hc hkind
  | transferProcess => exact StatefulKind.int_of_ofRow (k := .transferProcess) h c hc hkind

lemma Datum.isPlain_of_equal_text {d : Datum} {s : Text.Codes}
    (h : Comparison.equal.holds d (.text s) = true) : d.IsPlain := by
  rintro x rfl
  cases h

/-- What a criterion on a column looks at is the column of its property. -/
lemma TableMapping.plainColumn?_eq_of_target? {m : TableMapping} {property : String} {c : Column}
    (h : m.target? property = some (.column c)) : m.plainColumn? property = some c := by
  rw [target?] at h
  split at h
  · next c' hc' =>
    rw [hc', Target.column.inj (Option.some.inj h)]
  · obtain ⟨_, -, h⟩ := Option.bind_eq_some_iff.mp h
    obtain ⟨_, -, h⟩ := Option.bind_eq_some_iff.mp h
    obtain ⟨_, -, h⟩ := Option.bind_eq_some_iff.mp h
    cases h

/-- A condition that fixes a column fixes it at what its operand stands for there. -/
lemma Condition.Says.standsFor_of_fixed {params : List Param} {m : TableMapping} {c : Criterion}
    {cond : Condition} {column : String} {place : Placeholder} (h : cond.Says params m c)
    (hcolumn : cond.column? = some column) (hplace : cond.fixedAt? = some place) :
    ∃ col o, m.plainColumn? c.property = some col ∧ col.name = column ∧
      place.StandsFor params m.table c.property col.kind o := by
  obtain ⟨name, rfl | rfl⟩ := Condition.fixedAt?_eq_some hplace
  · cases hcolumn
    cases h with
    | compare target ht e he op ho hlike p hp =>
        cases he with
        | column col => exact ⟨col, c.operand, TableMapping.plainColumn?_eq_of_target? ht, rfl, hp⟩
  · cases hcolumn
    cases h with
    | oneOf target ht e he ho ps hp =>
        obtain ⟨o, -, ho⟩ := exists_of_forall₂ hp (List.mem_singleton_self place)
        cases he with
        | column col => exact ⟨col, o, TableMapping.plainColumn?_eq_of_target? ht, rfl, ho⟩

/-- A condition that holds fixes no column with a real number in it, if the columns of integers hold
integers. -/
lemma Condition.Says.isPlain_of_fixed {params : List Param} {m : TableMapping} {c : Criterion}
    {cond : Condition} {leases : LeaseTable} {r : Row} {column : String}
    (h : cond.Says params m c)
    (hint : ∀ c ∈ m.columns, c.kind = .integer → ∃ n, r.cell c.name = .int n)
    (hcolumn : cond.column? = some column) (hfixed : cond.fixedAt?.isSome = true)
    (hheld : cond.holds leases params r = .ok true) :
    (Datum.ofCell (r.cell column)).IsPlain := by
  obtain ⟨place, hplace⟩ := Option.isSome_iff_exists.mp hfixed
  obtain ⟨col, o, hcol, rfl, hstands⟩ := h.standsFor_of_fixed hcolumn hplace
  have hequal := Condition.equal_of_fixed hcolumn hplace hheld
  obtain ⟨hfind, hkind⟩ := Option.filter_eq_some_iff.mp hcol
  -- a text is only equal to a text, and the columns of integers hold words
  cases hk : col.kind with
  | text =>
      rw [hk] at hstands
      obtain ⟨s, -, hs⟩ := hstands.text?
      rw [hs] at hequal
      exact Datum.isPlain_of_equal_text hequal
  | integer =>
      obtain ⟨n, hn⟩ := hint col (List.mem_of_find?_eq_some hfind) hk
      rw [hn]
      exact fun x hx => by cases hx
  | json => exact absurd hk (by simpa using hkind)

/-- Likeness is about no column with a real number in it, if the columns of integers hold
integers. -/
lemma Select.isSettled_of_saying {q : Select} {params : List Param} {m : TableMapping}
    {filter : List Criterion} {r : Row} (leases : LeaseTable)
    (hconds : List.Forall₂ (fun c cond => Condition.Says params m c cond) filter q.conditions)
    (hint : ∀ c ∈ m.columns, c.kind = .integer → ∃ n, r.cell c.name = .int n) :
    q.IsSettled leases params r := by
  intro cond hcond hlike f hf hheld column hcolumn
  obtain ⟨hmem, -, place, -, -, hplace⟩ := deciding?_eq_some hf
  obtain ⟨c, -, hc⟩ := exists_of_forall₂ hconds (List.mem_filter.mp hmem).1
  exact hc.isPlain_of_fixed hint hcolumn (by rw [hplace]; rfl) hheld

/-- The rows that can match and do are those that satisfy all criteria, if the columns of integers
hold integers. -/
theorem Select.Bound.isMatch_iff_holdsOn {m : TableMapping} {b : Select.Bound}
    {filter : List Criterion} {leases : LeaseTable} {t : Table} {r : Row}
    (hshort : b.HasShortPatterns)
    (hconds : List.Forall₂ (fun c cond => Condition.Says b.params m c cond) filter
      b.query.conditions)
    (hint : ∀ c ∈ m.columns, c.kind = .integer → ∃ n, r.cell c.name = .int n) (hr : r ∈ t.rows) :
    (r ∈ b.candidates t ∧ b.isMatch leases t.definition r = .ok true) ↔
      ∀ c ∈ filter, c.HoldsOn m r := by
  rw [isMatch_iff_holds hshort hr (isSettled_of_saying leases hconds hint)]
  exact Condition.holds_iff_holdsOn hconds

namespace EntityStore

/-- The rows that the entities of an answer are read from: rows of the table that satisfy all
criteria. -/
theorem exists_row_of_readRows {k : StoreKind} {s : EntityStore k.Record} {spec : QuerySpec}
    {b : Backend} {es : List k.Record} {e : k.Record} (h : s.readRows spec b = .ok es)
    (he : e ∈ es) :
    ∃ t r, b.database.table? k.schema.mapping.table = some t ∧ r ∈ t.rows ∧
      Entity.ofRow (r.project k.schema.mapping.columnNames) = .ok e ∧
      ∀ c ∈ spec.filter, c.HoldsOn k.schema.mapping r := by
  obtain ⟨query, rows, hq, hrows, projected, hr, hof⟩ := mem_readRows h he
  obtain ⟨conditions, order, limit, offset, hquery, hconds, -⟩ := TableMapping.select_eq_ok hq
  have hproject : query.query.projection = .columns k.schema.mapping.columnNames := by
    rw [hquery]
    rfl
  have hconditions : query.query.conditions = conditions := by rw [hquery]
  obtain ⟨t, leases, r, ht, -, rfl, hcandidate, hmatch⟩ :=
    Database.exists_match_of_select hproject hrows hr
  rw [hquery] at ht
  refine ⟨t, r, ht, Select.Bound.mem_of_mem_candidates hcandidate, hof, ?_⟩
  have hconds' := hconditions ▸ hconds
  have hsettled := Select.isSettled_of_saying leases hconds' (StoreKind.int_of_ofRow hof)
  -- a row that was found is a candidate whose conditions were not all tested again
  exact (Condition.holds_iff_holdsOn hconds').mp
    (Select.Bound.holds_of_candidate hsettled hcandidate hmatch)

end EntityStore

end LeasedStore
