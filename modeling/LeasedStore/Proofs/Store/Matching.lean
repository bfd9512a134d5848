/-
The entity of an id, provided that it matches a filter.

The look-up is a query like any other, with one more condition on the id.  It looks at rows of other
entities too, some of which may not be readable, but answers the row of the id alone: its condition
on the id is the last one, so that no other one decides it.

* `all_isHeldAmong`: the conditions of a filter hold on a row that meets the filter;
* `Select.Bound.rowsOf_of_id`, `EntityStore.exists_select_of_id`: the row that a query for an id
  answers;
* `Backend.current?`, `EntityStore.findMatching_eq`: what the look-up answers.
-/
import LeasedStore.Proofs.Store.Limits
import LeasedStore.Proofs.Store.Ready

namespace LeasedStore

/-! ### Conditions of filters on rows -/

/-- Does a condition hold on a row, given the leases that there are? -/
def Condition.isHeldAmong (leases : LeaseTable) (params : List Param) (c : Condition) (r : Row) :
    Bool :=
  ((c.holds leases params r).toOption).getD false

section Conditions

variable {k : StatefulKind} {leases : LeaseTable} {params : List Param} {r : Row}
  {filter : List Criterion} {conditions : List Condition}

/-- The conditions of a filter hold on a row if the row meets the filter. -/
lemma all_isHeldAmong
    (h : List.Forall₂ (fun c cond => Condition.Says params k.kind.schema.mapping c cond) filter
      conditions)
    (hr : r.HoldsValues k.kind.schema.mapping) :
    conditions.all (fun cond => cond.isHeldAmong leases params r) =
      r.meets k.kind.schema.mapping filter := by
  rw [Row.meets]
  induction h with
  | nil => rfl
  | cons hc _ ih =>
      rw [List.all_cons, List.all_cons, ih, Condition.isHeldAmong, hc.holds_value hr]
      rfl

/-- The conditions of a filter, and others about leases, come to results on a row with values. -/
lemma Select.isEvaluated_value {q : Select}
    (h : ∀ cond ∈ q.conditions,
      (∃ c ∈ filter, Condition.Says params k.kind.schema.mapping c cond) ∨
        cond.isOnLeases = true)
    (hr : r.HoldsValues k.kind.schema.mapping) :
    q.IsEvaluated leases params r fun c => c.isHeldAmong leases params r where
  holds cond hcond := by
    rw [Condition.isHeldAmong]
    rcases h cond hcond with ⟨c, -, hc⟩ | hleases
    · rw [hc.holds_value hr]
      rfl
    · cases cond with
      | unleased idExpr kind now => rfl
      | _ => cases hleases
  isPlain cond hcond column hcolumn := by
    rcases h cond hcond with ⟨c, -, hc⟩ | hleases
    · exact hc.isPlain_column (fun he ht => (he.datum_value ht hr).1) hcolumn
    · cases cond with
      | unleased idExpr kind now => cases hcolumn
      | _ => cases hleases

end Conditions

/-! ### The row of an id -/

section RowOfId

variable {k : StatefulKind} {t : Table} {q : Select.Bound} {leases : LeaseTable} {id : String}
  {filter : List Criterion} {r : Row}

lemma Table.key?_eq_iff {k : StoreKind} (hd : t.definition = k.schema.tableDef) :
    t.key? r = some (.text id) ↔ r.cell k.schema.mapping.idColumn = .text id := by
  have hkey : k.schema.tableDef.key = k.schema.mapping.idColumn := rfl
  rw [key?, hd, TableDef.key?, hkey]
  cases r.cell k.schema.mapping.idColumn <;> simp

/-- The criterion on the id is met by the row of the id. -/
lemma Row.isMet_id {k : StatefulKind} (h : r.cell k.kind.schema.mapping.idColumn = .text id) :
    (Criterion.equals k.kind.schema.mapping.idProperty (.text id)).isMet
      (r.value k.kind.schema.mapping k.kind.schema.mapping.idProperty) = true := by
  obtain ⟨c, hc, htarget⟩ := StatefulKind.plainColumn?_of_target? k.kind.target?_idProperty
  cases htarget
  rw [value, hc]
  dsimp only
  rw [h]
  simp [PropertyValue.ofCell, Criterion.equals, Criterion.isMet, Operator.equal, Operand.text?,
    Comparison.holdsOfTexts, Comparison.accepts, Text.order]

/-- For the row of an id a criterion on the id adds nothing. -/
lemma Row.meets_concat_id {k : StatefulKind}
    (h : r.cell k.kind.schema.mapping.idColumn = .text id) (filter : List Criterion) :
    r.meets k.kind.schema.mapping
      (filter ++ [.equals k.kind.schema.mapping.idProperty (.text id)]) =
      r.meets k.kind.schema.mapping filter := by
  have hid : ([Criterion.equals k.kind.schema.mapping.idProperty (.text id)].all fun c =>
      c.isMet (r.value k.kind.schema.mapping c.property)) = true := by
    rw [List.all_cons, List.all_nil, Bool.and_true]
    exact isMet_id h
  rw [meets, List.all_append, hid, Bool.and_true]
  rfl

/-- A row that holds values is answered to a query for the entities of a filter if it is a row that
the query can match and the conditions that are looked at hold. -/
lemma Select.Bound.isMatch_value_iff (hshort : q.HasShortPatterns)
    (hq : ∀ cond ∈ q.query.conditions,
      (∃ c ∈ filter, Condition.Says q.params k.kind.schema.mapping c cond) ∨
        cond.isOnLeases = true)
    (hr : r.HoldsValues k.kind.schema.mapping) (hmem : r ∈ t.rows) :
    (r ∈ q.candidates t ∧ q.isMatch leases t.definition r = .ok true) ↔
      (q.query.conditions.all fun c => c.isHeldAmong leases q.params r) = true := by
  have hevaluated : q.query.IsEvaluated leases q.params r
      fun c => c.isHeldAmong leases q.params r := Select.isEvaluated_value hq hr
  have hcandidate : r ∈ q.candidates t ↔ q.query.isRefuted q.params = false := by
    rw [candidates]
    split
    · next h => simp [h]
    · next h => simp [h, hmem]
  rw [Select.all_conditions_iff hevaluated, hcandidate,
    isMatch_eq (p := fun c r => c.isHeldAmong leases q.params r) hshort hevaluated, Except.ok.injEq]

/-- What a query for an id finds is the row of the id, if it meets the filter: whatever is found has
the id for its key. -/
lemma Select.Bound.mem_found_of_id (hshort : q.HasShortPatterns)
    (hd : t.definition = k.kind.schema.tableDef)
    (hmeaning : List.Forall₂ (fun c cond => Condition.Says q.params k.kind.schema.mapping c cond)
      (filter ++ [.equals k.kind.schema.mapping.idProperty (.text id)]) q.query.conditions)
    (hvalues : ∀ r, t.find? (.text id) = some r → r.HoldsValues k.kind.schema.mapping) :
    r ∈ q.found leases t ↔
      (t.find? (.text id)).filter (fun r => r.meets k.kind.schema.mapping filter) = some r := by
  obtain ⟨others, last, hconditions, -, hlast⟩ := exists_of_forall₂_concat hmeaning
  obtain ⟨p, rfl, hp⟩ := Condition.says_id hlast
  have hall : ∀ cond ∈ q.query.conditions,
      (∃ c ∈ filter ++ [.equals k.kind.schema.mapping.idProperty (.text id)],
        Condition.Says q.params k.kind.schema.mapping c cond) ∨ cond.isOnLeases = true :=
    fun cond hcond => .inl (exists_of_forall₂ hmeaning hcond)
  constructor
  -- the last condition is about the id, so that a row which matches is the one with that key
  · intro hr
    obtain ⟨hcandidate, hheld⟩ := mem_found.mp hr
    have hmem := mem_of_mem_candidates hcandidate
    have hlast := (Condition.holds_of_allHold hheld _ (Select.mem_scanned_iff.mpr
      (Select.mem_undecided_of_last hconditions rfl rfl))).1
    have hcell : r.cell k.kind.schema.mapping.idColumn = .text id := by
      have hequal := Except.ok.inj hlast
      rw [Placeholder.datum, hp] at hequal
      exact Comparison.eq_of_equal_holds_text hequal
    have hrow := Table.find?_of_mem hmem ((Table.key?_eq_iff hd).mpr hcell)
    have hmeets := (isMatch_value_iff hshort hall (hvalues r hrow) hmem).mp ⟨hcandidate, hheld⟩
    rw [all_isHeldAmong hmeaning (hvalues r hrow), Row.meets_concat_id hcell] at hmeets
    rw [hrow]
    exact Option.filter_eq_some_iff.mpr ⟨rfl, hmeets⟩
  · intro hr
    obtain ⟨hrow, hmeets⟩ := Option.filter_eq_some_iff.mp hr
    have hkey : t.key? r = some (.text id) := by simpa using List.find?_some hrow
    refine mem_found.mpr ((isMatch_value_iff hshort hall (hvalues r hrow)
      (Table.mem_rows_of_find? hrow)).mpr ?_)
    rwa [all_isHeldAmong hmeaning (hvalues r hrow),
      Row.meets_concat_id ((Table.key?_eq_iff hd).mp hkey)]

/-- The first member of a list that has at most one. -/
lemma take_one_of_mem_iff {α : Type} {xs : List α} {x? : Option α}
    (h : ∀ x, x ∈ xs ↔ x? = some x) : xs.take 1 = x?.toList := by
  cases xs with
  | nil =>
      cases x? with
      | none => rfl
      | some x => exact absurd ((h x).mpr rfl) List.not_mem_nil
  | cons x rest =>
      rw [(h x).mp (List.mem_cons_self ..)]
      rfl

/-- A query for an id answers its row, if the row meets the filter. -/
theorem Select.Bound.rowsOf_of_id (hshort : q.HasShortPatterns)
    (hd : t.definition = k.kind.schema.tableDef)
    (hmeaning : List.Forall₂ (fun c cond => Condition.Says q.params k.kind.schema.mapping c cond)
      (filter ++ [.equals k.kind.schema.mapping.idProperty (.text id)]) q.query.conditions)
    (hlimit : ∀ n, q.number q.query.limit n = 1) (hoffset : q.number q.query.offset 0 = 0)
    (hvalues : ∀ r, t.find? (.text id) = some r → r.HoldsValues k.kind.schema.mapping) :
    q.rowsOf leases t =
      .ok ((t.find? (.text id)).filter fun r => r.meets k.kind.schema.mapping filter).toList := by
  have hmatch : ∀ r ∈ q.candidates t, ∃ held, q.isMatch leases t.definition r = .ok held :=
    fun r _ => exists_isMatch hshort hmeaning fun _ _ _ hsays => hsays.exists_holds_row leases r
  rw [rowsOf_eq_found hmatch hlimit, hoffset, List.drop_zero,
    take_one_of_mem_iff fun r => mem_found_of_id hshort hd hmeaning hvalues]

end RowOfId

/-! ### The entity of an id -/

/-- The entity of an id as it is now, if its row meets a filter. -/
def Backend.current? (b : Backend) (k : StatefulKind) (filter : List Criterion) (id : String) :
    Option k.kind.Record :=
  ((b.database.row? k.kind id).filter fun r => r.meets k.kind.schema.mapping filter).bind
    fun r => (Entity.ofRow r).toOption

/-- The row of an entity that meets a filter can be read. -/
lemma Backend.decodes_of_current? {b : Backend} {k : StatefulKind} {filter : List Criterion}
    {id : String} {e : k.kind.Record} {row : Row} (h : b.current? k filter id = some e)
    (hr : b.database.row? k.kind id = some row) :
    ∃ e : k.kind.Record, Entity.ofRow row = .ok e := by
  rw [current?, hr] at h
  obtain ⟨row', hrow, hof⟩ := Option.bind_eq_some_iff.mp h
  cases (Option.filter_eq_some_iff.mp hrow).1
  cases he : (Entity.ofRow row : Except StoreError k.kind.Record) with
  | ok e' => exact ⟨e', rfl⟩
  | error err =>
      rw [he] at hof
      cases hof

namespace EntityStore

/-- A query for one entity at most is answered by its first page. -/
lemma readPages_of_limit_one {α : Type} [Entity α] {s : EntityStore α} {spec : QuerySpec}
    {b : Backend} (h : spec.limit = 1) : s.readPages spec b = s.readRows spec b := by
  have hpage : s.pageLimit spec = spec.limit := by
    rw [pageLimit, h]
    split
    · rfl
    · next hlt =>
      have hpos := UInt32.lt_iff_toNat_lt.mp s.pageSize_pos
      have hle := UInt32.le_iff_toNat_le.mp (UInt32.not_lt.mp hlt)
      rw [← UInt32.toNat_inj]
      exact Nat.le_antisymm hle hpos
  have hfirst : ({ spec with limit := s.pageLimit spec } : QuerySpec) = spec := by
    rw [hpage]
  rw [readPages]
  cases hfetch : s.fetchPage spec b with
  | error e =>
      have hread := fetchPage_eq_error hfetch
      rw [hfirst] at hread
      exact hread.symm
  | ok page? =>
      cases page? with
      | none => exact absurd (fetchPage_eq_none hfetch) (by rw [h]; decide)
      | some page =>
          obtain ⟨hread, hrest⟩ := fetchPage_eq_some hfetch
          rw [hfirst] at hread
          -- a page of one row is as long as the limit allows, and no other one is asked for
          have hnone : page.rest = none := by
            rw [hrest, hpage, if_neg fun hif => UInt32.lt_irrefl _ hif.2]
          dsimp only
          split
          · exact hread.symm
          · next rest hsome =>
            rw [hnone] at hsome
            cases hsome

variable {k : StatefulKind} {s : EntityStore k.kind.Record} {b : Backend} {id : String}
  {filter : List Criterion}

/-- The query of a look-up by id and filter answers the row of the id, if it meets the filter. -/
lemma exists_select_of_id (hb : b.IsReady k.kind) (hf : k.kind.schema.mapping.Translates filter)
    (hfits : k.kind.schema.mapping.FitsLookUp filter)
    (hvalues : ∀ r, b.database.row? k.kind id = some r → r.HoldsValues k.kind.schema.mapping) :
    ∃ query, s.mapping.select .sqlite
        (firstOf (filter ++ [.equals s.mapping.idProperty (.text id)])) = .ok query ∧
      b.database.select query =
        .ok (((b.database.row? k.kind id).filter fun r =>
          r.meets k.kind.schema.mapping filter).toList.map fun r =>
            r.project k.kind.schema.mapping.columnNames) := by
  obtain ⟨t, ht, hd, -⟩ := hb.table
  obtain ⟨⟨query, params⟩, hq⟩ := hf.exists_lookUp id
  obtain ⟨conditions, order, limit, offset, hquery, hmeaning, -, hlimit, hoffset⟩ :=
    TableMapping.select_eq_ok hq
  cases hquery
  have hfits := hfits id _ hq
  have hleases : b.database.leasesOf ⟨.columns k.kind.schema.mapping.columnNames,
      k.kind.schema.mapping.table, conditions, order, some limit, some offset⟩ = .ok .empty := by
    rw [Database.leasesOf, any_isOnLeases_of_forall₂ hmeaning]
    rfl
  rw [Database.row?_of_table? ht] at hvalues ⊢
  exact ⟨_, hq, Database.select_of_rowsOf rfl hfits ht hleases (Select.Bound.rowsOf_of_id
    hfits.patterns hd hmeaning (number_countParam hlimit) (number_countParam hoffset 0) hvalues)⟩

/-- A look-up by id and filter answers the entity as it is now, if its row meets the filter. -/
theorem findMatching_eq (hb : b.IsReady k.kind) (hf : k.kind.schema.mapping.Translates filter)
    (hfits : k.kind.schema.mapping.FitsLookUp filter)
    (hdecodes : ∀ r, b.database.row? k.kind id = some r →
      ∃ e : k.kind.Record, Entity.ofRow r = .ok e) :
    s.findMatching id filter b = .ok (b.current? k filter id) := by
  have hvalues (r : Row) (hr : b.database.row? k.kind id = some r) :
      r.HoldsValues k.kind.schema.mapping := by
    obtain ⟨t, ht, hd, hstored⟩ := hb.table
    obtain ⟨e, he⟩ := hdecodes r hr
    rw [Database.row?_of_table? ht] at hr
    exact StatefulKind.holdsValues_of_ofRow (hd ▸ hstored r (Table.mem_rows_of_find? hr)) he
  obtain ⟨query, hq, hselect⟩ := exists_select_of_id hb hf hfits hvalues
  have hall : s.readAll (firstOf (filter ++ [.equals s.mapping.idProperty (.text id)])) b =
      .ok (b.current? k filter id).toList := by
    rw [readAll_of_select hq, readPages_of_limit_one rfl, readRows_of_select hb.isOpen hq hselect,
      Backend.current?]
    cases hfound : (b.database.row? k.kind id).filter fun r =>
        r.meets k.kind.schema.mapping filter with
    | none => rfl
    | some r =>
        obtain ⟨e, he⟩ := hdecodes r (Option.filter_eq_some_iff.mp hfound).1
        rw [Option.toList_some, List.map_singleton, List.mapM_cons, StatefulKind.ofRow_project, he]
        simp [he, Except.toOption]
  rw [findMatching, Reading.bind_of_ok hall]
  cases b.current? k filter id <;> rfl

end EntityStore

end LeasedStore
