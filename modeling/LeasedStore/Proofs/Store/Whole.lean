/-
Pages against a query in one piece.

A table may hold rows that are no entities: a state of an unknown code, a document of another shape.
As long as the documents in it are well-formed, the conditions of a filter can be looked at on every
row, and pages of any size come to the same as the single query: all its entities in their order, or
the error of the first row that is none.

* `Table.HasWellFormedDocuments`, `QuerySpec.HasPlainKeys`: what is asked of a table and a query;
* `Expr.Reads.exists_datum_of_isWhole`, `exists_datum`: what the criteria of such a query look at is
  found on every row;
* `EntityStore.exists_select_part`: then the parts of a query answer parts of what it finds;
* `EntityStore.Fetches`: the queries by which a query is read page by page;
* `EntityStore.readAll_eq_of_select`: pages of any size come to the same as the single query.
-/
import Mathlib
import LeasedStore.Proofs.Json5.WellFormed
import LeasedStore.Proofs.Store.Excess

namespace LeasedStore

/-- Are the documents in a table well-formed? -/
def Table.HasWellFormedDocuments (m : TableMapping) (t : Table) : Prop :=
  ∀ c ∈ m.columns, c.kind = .json → ∀ r ∈ t.rows, ∀ document,
    r.cell c.name = .text document → Json5.IsWellFormed document

/-- Are the keys of members that a specification asks for free of backslashes and NULs? -/
def QuerySpec.HasPlainKeys (m : TableMapping) (spec : QuerySpec) : Prop :=
  ∀ c ∈ spec.filter, ∀ column keys, m.target? c.property = some (.member column keys) →
    ∀ key ∈ keys, '\\' ∉ key.toList ∧ '\x00' ∉ key.toList

/-! ### Conditions on rows of any content -/

/-- Is what is looked at of the path to a target a path? -/
def Target.IsWhole : Target → Prop
  | column _ => True
  | member _ keys =>
    (JsonPath.read ((JsonPath.text keys).toList.takeWhile (· ≠ '\x00'))).isWhole = true

/-- Is the document well-formed that a target stands in, in a row? -/
def Target.IsWellFormed (r : Row) : Target → Prop
  | column _ => True
  | member c _ => ∀ document, r.cell c.name = .text document → Json5.IsWellFormed document

/-- What an expression looks at is found where its path is one and its document is well-formed. -/
lemma Expr.Reads.exists_datum_of_isWhole {params : List Param} {r : Row} {e : Expr}
    {target : Target} (h : e.Reads params target) (hwhole : target.IsWhole)
    (hdoc : target.IsWellFormed r) : ∃ d, e.datum params r = .ok d := by
  cases h with
  | column c => exact ⟨_, rfl⟩
  | member column keys path hpath =>
      obtain ⟨s, hs⟩ := exists_memberText hwhole hdoc
      have hcell : path.cell params = .text (JsonPath.text keys) := by
        rw [Placeholder.cell, hpath]
        rfl
      refine ⟨(s.map Datum.text).getD .null, ?_⟩
      rw [datum, hcell]
      dsimp only
      rw [hs]
      rfl

/-- Members are looked up in the column whose members can be queried. -/
lemma TableMapping.jsonMembers_of_target? {m : TableMapping} {property : String} {c : Column}
    {keys : List String} (h : m.target? property = some (.member c keys)) :
    (∃ name, m.jsonMembers = some name ∧ m.column? name = some c) ∧
      TableMapping.memberKeys? c property = some keys := by
  rw [target?] at h
  split at h
  · cases h
  · obtain ⟨name, hname, h⟩ := Option.bind_eq_some_iff.mp h
    obtain ⟨c', hc, h⟩ := Option.bind_eq_some_iff.mp h
    obtain ⟨keys', hkeys, h⟩ := Option.bind_eq_some_iff.mp h
    cases h
    exact ⟨⟨name, hname, hc⟩, hkeys⟩

/-- Members are looked up in a column of documents, along keys without quotes. -/
lemma StoreKind.member_of_target? {k : StoreKind} {property : String} {c : Column}
    {keys : List String} (h : k.schema.mapping.target? property = some (.member c keys)) :
    c ∈ k.schema.mapping.columns ∧ c.kind = .json ∧ ∀ key ∈ keys, '"' ∉ key.toList := by
  have hjson : ∀ name c, k.schema.mapping.jsonMembers = some name →
      k.schema.mapping.column? name = some c → c.kind = .json := by
    intro name c hname hc
    cases k <;> cases hname <;> cases hc <;> rfl
  obtain ⟨⟨name, hname, hc⟩, hkeys⟩ := TableMapping.jsonMembers_of_target? h
  refine ⟨List.mem_of_find?_eq_some hc, hjson name c hname hc, ?_⟩
  obtain ⟨path, -, hkeys⟩ := Option.bind_eq_some_iff.mp hkeys
  dsimp only at hkeys
  split at hkeys
  · next hall =>
    cases hkeys
    intro key hk
    obtain ⟨part, hpart, rfl⟩ := List.mem_map.mp hk
    have hkey := List.all_eq_true.mp hall part hpart
    rw [JsonPath.isKey, Bool.and_eq_true_iff] at hkey
    simpa using hkey.2
  · cases hkeys

/-- A path leads along keys without NULs, at which it would end. -/
lemma StoreKind.isWhole_of_target? {k : StoreKind} {property : String} {target : Target}
    (ht : k.schema.mapping.target? property = some target)
    (hkeys : ∀ column keys, k.schema.mapping.target? property = some (.member column keys) →
      ∀ key ∈ keys, '\x00' ∉ key.toList) : target.IsWhole := by
  cases target with
  | column c => trivial
  | member column keys =>
      obtain ⟨-, -, hquote⟩ := StoreKind.member_of_target? ht
      rw [Target.IsWhole, JsonPath.read_text fun key hk =>
        ⟨hquote key hk, hkeys column keys ht key hk⟩]

/-- What a criterion looks at is found on every row of a table with well-formed documents. -/
lemma Expr.Reads.exists_datum {k : StoreKind} {params : List Param} {t : Table} {r : Row}
    {property : String} {e : Expr} {target : Target} (h : e.Reads params target)
    (ht : k.schema.mapping.target? property = some target)
    (hdocs : t.HasWellFormedDocuments k.schema.mapping) (hr : r ∈ t.rows)
    (hkeys : ∀ column keys, k.schema.mapping.target? property = some (.member column keys) →
      ∀ key ∈ keys, '\\' ∉ key.toList ∧ '\x00' ∉ key.toList) :
    ∃ d, e.datum params r = .ok d := by
  refine h.exists_datum_of_isWhole (StoreKind.isWhole_of_target? ht fun column keys hm key hk =>
    (hkeys column keys hm key hk).2) ?_
  cases target with
  | column c => trivial
  | member column keys =>
      obtain ⟨hmem, hjson, -⟩ := StoreKind.member_of_target? ht
      exact hdocs column hmem hjson r hr

/-- Criteria for an id look at a column. -/
lemma QuerySpec.hasPlainKeys_replicate {k : StoreKind} {spec : QuerySpec} {n : ℕ}
    {operand : Operand}
    (hfilter : spec.filter = List.replicate n (.equals k.schema.mapping.idProperty operand)) :
    spec.HasPlainKeys k.schema.mapping := by
  intro c hc column keys ht
  rw [hfilter] at hc
  cases List.eq_of_mem_replicate hc
  cases k.target?_idProperty.symm.trans ht

/-- Assets with two well-formed documents each. -/
lemma Table.hasWellFormedDocuments_asset {t : Table}
    (h : ∀ r ∈ t.rows, ∃ id properties address createdAt,
      r = ⟨[("id", .text id), ("properties", .text properties), ("data_address", .text address),
        ("created_at", .int createdAt)]⟩ ∧
      Json5.IsWellFormed properties ∧ Json5.IsWellFormed address) :
    t.HasWellFormedDocuments StoreKind.asset.schema.mapping := by
  intro c hc hjson r hr document hcell
  obtain ⟨id, properties, address, createdAt, rfl, hproperties, haddress⟩ := h r hr
  simp only [StoreKind.schema, Entity.schema, Asset.schema, List.mem_cons, List.not_mem_nil,
    or_false] at hc
  rcases hc with rfl | rfl | rfl | rfl
  · cases hjson
  · cases hcell
    exact hproperties
  · cases hcell
    exact haddress
  · cases hjson

namespace EntityStore

variable {k : StoreKind} {s : EntityStore k.Record} {b : Backend} {t : Table} {spec : QuerySpec}
  {query : Select.Bound}

/-- Where looking at a row never fails, the parts of a query answer parts of what it finds. -/
lemma exists_select_part {db : Database} (ht : db.table? k.schema.mapping.table = some t)
    (hq : k.schema.mapping.select .sqlite spec = .ok query) (hfits : query.Fits)
    (hholds : ∀ r ∈ t.rows, ∀ c ∈ spec.filter, ∀ params cond,
      Condition.Says params k.schema.mapping c cond →
        ∃ held, cond.holds .empty params r = .ok held) :
    ∃ whole : Select.Bound, whole.HasShortPatterns ∧
      List.Forall₂ (fun c cond => Condition.Says whole.params k.schema.mapping c cond) spec.filter
        whole.query.conditions ∧
      k.schema.mapping.order spec = .ok whole.query.order ∧ ∀ offset limit : UInt32,
        ∃ part, k.schema.mapping.select .sqlite { spec with offset := offset, limit := limit } =
            .ok part ∧
          db.select part =
            .ok ((((whole.found .empty t).drop offset.toNat).take limit.toNat).map fun r =>
              r.project k.schema.mapping.columnNames) := by
  -- all parts of the query have its conditions and its order, and differ in their windows only
  obtain ⟨whole, hprojection, htable, hrun, horder, hpart⟩ := TableMapping.select_part hq
  obtain ⟨-, hmeaning⟩ := forall₂_of_filterConditions hrun
  have hroom := (TableMapping.fits_select_iff hrun hq).mp hfits
  have hbound : whole.IsBound := by
    intro cond hcond
    obtain ⟨c, -, hc⟩ := exists_of_forall₂ hmeaning hcond
    exact hc.isBound
  have hmatch : ∀ r ∈ whole.candidates t,
      ∃ held, whole.isMatch .empty t.definition r = .ok held := fun r hr =>
    Select.Bound.exists_isMatch hroom.patterns hmeaning fun c hc _ hsays =>
      hholds r (Select.Bound.mem_of_mem_candidates hr) c hc _ _ hsays
  refine ⟨whole, hroom.patterns, hmeaning, horder, fun offset limit =>
    ⟨whole.part offset limit, hpart offset limit, ?_⟩⟩
  have htable' : db.table? (whole.part offset limit).query.table = some t := by
    change db.table? whole.query.table = _
    rw [htable, ht]
  have hleases : db.leasesOf (whole.part offset limit).query = .ok .empty := by
    change (if whole.query.conditions.any Condition.isOnLeases then _ else _) = _
    rw [any_isOnLeases_of_forall₂ hmeaning]
    rfl
  have hprojection' : (whole.part offset limit).query.projection =
      .columns k.schema.mapping.columnNames := hprojection
  have hfits' := (Select.Bound.fits_part_iff hmeaning offset limit).mpr hroom
  exact Database.select_of_rowsOf hprojection' hfits' htable' hleases
    (Select.Bound.rowsOf_part hbound hmatch offset limit)

/-! ### Pages -/

/-- Is a query one of those by which another one is read page by page? -/
inductive Fetches {α : Type} [Entity α] (s : EntityStore α) (b : Backend) (spec : QuerySpec) :
    QuerySpec → Prop where
  | first : Fetches s b spec spec
  | next {spec' rest : QuerySpec} {page : Page α spec'} (h : Fetches s b spec spec')
      (hpage : s.fetchPage spec' b = .ok (some page)) (hrest : page.rest = some rest) :
      Fetches s b spec rest

/-- The queries for pages differ from the query in offset and limit alone. -/
lemma Fetches.reads {α : Type} [Entity α] {s : EntityStore α} {spec spec' : QuerySpec}
    {rows : List Row} (h : s.Fetches b spec spec') (hr : s.Reads spec b rows)
    (hrows : rows.length < UInt32.size) : s.Reads spec' b rows := by
  induction h with
  | first => exact hr
  | next h hpage hrest ih =>
      obtain ⟨rfl, -⟩ := ih.behind_pageLimit (.inr hrows) hpage hrest
      exact fun offset limit => ih offset limit

/-- Pages of any size, and of any content, come to the same as the single query: the entities of its
rows in their order, or the error of the first row that is none.  On the way offsets and limits are
counted within their words. -/
theorem readAll_eq_of_select (ho : b.isOpen = true)
    (ht : b.database.table? k.schema.mapping.table = some t)
    (hsize : t.rows.length < UInt32.size) (hdocs : t.HasWellFormedDocuments k.schema.mapping)
    (hkeys : spec.HasPlainKeys k.schema.mapping)
    (hq : k.schema.mapping.select .sqlite spec = .ok query) (hfits : query.Fits) :
    ∃ rows, b.database.select query = .ok rows ∧ ∀ (duration : Int64) (pageSize : UInt32),
      (EntityStore.new k.Record duration pageSize).readAll spec b = rows.mapM Entity.ofRow ∧
        ∀ {spec' rest : QuerySpec} {page : Page k.Record spec'},
          (EntityStore.new k.Record duration pageSize).Fetches b spec spec' →
          (EntityStore.new k.Record duration pageSize).fetchPage spec' b = .ok (some page) →
          page.rest = some rest →
            spec'.offset.toNat + page.entities.length < UInt32.size ∧
            page.entities.length ≤ spec'.limit.toNat ∧
            rest.offset.toNat = spec'.offset.toNat + page.entities.length ∧
            rest.limit.toNat = spec'.limit.toNat - page.entities.length := by
  obtain ⟨whole, -, -, -, hparts⟩ := exists_select_part ht hq hfits fun r hr c hc params cond h =>
    h.exists_holds fun he htarget => he.exists_datum htarget hdocs hr (hkeys c hc)
  let rows := (whole.found .empty t).map fun r => r.project k.schema.mapping.columnNames
  -- there are fewer rows than offsets, so that every page starts where the one before it ends
  have hrows : rows.length < UInt32.size := by
    refine Nat.lt_of_le_of_lt ?_ hsize
    rw [List.length_map]
    exact Select.Bound.length_found_le
  simp only [List.map_take, List.map_drop] at hparts
  refine ⟨(rows.drop spec.offset.toNat).take spec.limit.toNat, ?_, fun duration pageSize => ?_⟩
  · obtain ⟨part, hpart, hselect⟩ := hparts spec.offset spec.limit
    cases hq.symm.trans hpart
    exact hselect
  have hreads : (EntityStore.new k.Record duration pageSize).Reads spec b rows := by
    intro offset limit
    obtain ⟨part, hpart, hselect⟩ := hparts offset limit
    exact readRows_of_select ho hpart hselect
  refine ⟨?_, fun {spec' rest page} hfetches hpage hrest => ?_⟩
  · rw [readAll_of_select hq]
    exact readPages_eq hreads (.inr hrows)
  · obtain ⟨-, hoffset, hlimit⟩ := (hfetches.reads hreads hrows).behind_pageLimit (.inr hrows) hpage
      hrest
    obtain ⟨hfull, hlt⟩ := length_of_rest hpage hrest
    rw [hfull]
    exact ⟨hoffset ▸ rest.offset.toNat_lt, UInt32.le_iff_toNat_le.mp (pageLimit_le _ _), hoffset,
      hlimit⟩

/-- Three assets with the same property, the second of them with an address that is none: whatever
the size of the pages, its error is what is answered. -/
theorem readAll_of_broken_address :
    let asset (id address : String) : Row :=
      ⟨[("id", .text id), ("properties", .text "\x7b\"n\":7\x7d"), ("data_address", .text address),
        ("created_at", .int 0)]⟩
    let rows := [asset "a" "\x7b\x7d", asset "b" "[]", asset "c" "\x7b\x7d"]
    let t : Table := ⟨Asset.schema.tableDef, rows, by decide⟩
    let b : Backend := ⟨⟨none, [t]⟩, true, ⟨0⟩, .empty⟩
    let spec : QuerySpec := ⟨[⟨"properties.n", Operator.equal, .int 7⟩], none, .ascending, 0, 5⟩
    let m := StoreKind.asset.schema.mapping
    b.isOpen = true ∧ b.database.table? m.table = some t ∧ t.rows.length < UInt32.size ∧
      t.HasWellFormedDocuments m ∧ spec.HasPlainKeys m ∧
      (∃ query, m.select .sqlite spec = .ok query ∧ query.Fits ∧
        b.database.select query = .ok rows) ∧
      ∃ e, Asset.ofRow (asset "b" "[]") = .error e ∧ ∀ (duration : Int64) (pageSize : UInt32),
        (EntityStore.new StoreKind.asset.Record duration pageSize).readAll spec b = .error e := by
  intro asset rows t b spec m
  have ht : b.database.table? m.table = some t := rfl
  have hsize : t.rows.length < UInt32.size := by decide
  have hwritten : Json5.IsWellFormed "\x7b\"n\":7\x7d" := by
    refine ⟨.object [(⟨.plain, ['n']⟩, .number (.decimal ['7']))], by cbv, fun n hn => ?_⟩
    cases List.mem_singleton.mp hn
    trivial
  have hempty : Json5.IsWellFormed "\x7b\x7d" := ⟨.object [], by cbv, fun n hn => by cases hn⟩
  have hlist : Json5.IsWellFormed "[]" := ⟨.array [], by cbv, fun n hn => by cases hn⟩
  have hdocs : t.HasWellFormedDocuments m := by
    refine Table.hasWellFormedDocuments_asset fun r hr => ?_
    simp only [t, rows, List.mem_cons, List.not_mem_nil, or_false] at hr
    rcases hr with rfl | rfl | rfl
    · exact ⟨_, _, _, _, rfl, hwritten, hempty⟩
    · exact ⟨_, _, _, _, rfl, hwritten, hlist⟩
    · exact ⟨_, _, _, _, rfl, hwritten, hempty⟩
  have hkeys : spec.HasPlainKeys m := by
    intro c hc column keys hm
    cases List.mem_singleton.mp hc
    have htarget : m.target? "properties.n" =
        some (.member ⟨"properties", "properties", .json⟩ ["n"]) := by decide +kernel
    cases htarget.symm.trans hm
    simp
  obtain ⟨query, hq, hfits, hselect⟩ : ∃ query, m.select .sqlite spec = .ok query ∧ query.Fits ∧
      b.database.select query = .ok rows := by
    refine ⟨⟨⟨.columns m.columnNames, m.table,
      [.compare (.pathText "properties" ⟨1⟩) .equal ⟨2⟩], [("id", .ascending)], some ⟨3⟩,
        some ⟨4⟩⟩, [.text "$.\"n\"", .text "7", .int 5, .int 0]⟩, ?_, ?_, ?_⟩
    · cbv
    · decide
    · cbv
  obtain ⟨found, hfound, hread⟩ := readAll_eq_of_select rfl ht hsize hdocs hkeys hq hfits
  cases hselect.symm.trans hfound
  obtain ⟨a, ha⟩ := Except.exists_of_isOk (x := Asset.ofRow (asset "a" "\x7b\x7d"))
    (by decide +kernel)
  obtain ⟨e, he⟩ := Except.exists_of_isOk_eq_false (x := Asset.ofRow (asset "b" "[]"))
    (by decide +kernel)
  refine ⟨rfl, ht, hsize, hdocs, hkeys, ⟨query, hq, hfits, hselect⟩, e, he,
    fun duration pageSize => ?_⟩
  rw [(hread duration pageSize).1]
  change rows.mapM Asset.ofRow = _
  rw [List.mapM_cons, ha, List.mapM_cons, he]
  rfl

/-- A thousand criteria, and a row that meets them all: the single query is refused, while all pages
of a query for no rows are an empty list, since it is not made at all. -/
theorem readAll_of_thousand_criteria :
    let row : Row :=
      ⟨[("id", .text "a"), ("properties", .text "\x7b\x7d"), ("data_address", .text "\x7b\x7d"),
        ("created_at", .int 0)]⟩
    let t : Table := ⟨Asset.schema.tableDef, [row], by decide⟩
    let b : Backend := ⟨⟨none, [t]⟩, true, ⟨0⟩, .empty⟩
    let m := StoreKind.asset.schema.mapping
    let spec (limit : UInt32) : QuerySpec :=
      ⟨List.replicate 1000 (.equals "id" (.text "a")), none, .ascending, 0, limit⟩
    let s := EntityStore.new StoreKind.asset.Record 0 1
    b.isOpen = true ∧ b.database.table? m.table = some t ∧ t.rows.length < UInt32.size ∧
      t.HasWellFormedDocuments m ∧ (∀ limit, (spec limit).HasPlainKeys m) ∧
      (∃ e, Asset.ofRow row = .ok e) ∧
      (∀ limit, ∃ query, m.select .sqlite (spec limit) = .ok query ∧
        b.database.select query = .error .tooDeep) ∧
      s.readAll (spec 0) b = .ok [] ∧ s.readAll (spec 1) b = .error (.database .tooDeep) := by
  intro row t b m spec s
  have hdocs : t.HasWellFormedDocuments m := by
    have hempty : Json5.IsWellFormed "\x7b\x7d" := ⟨.object [], by cbv, fun n hn => by cases hn⟩
    refine Table.hasWellFormedDocuments_asset fun r hr => ?_
    cases List.mem_singleton.mp hr
    exact ⟨_, _, _, _, rfl, hempty, hempty⟩
  have hkeys (limit : UInt32) : (spec limit).HasPlainKeys m :=
    QuerySpec.hasPlainKeys_replicate (k := .asset) rfl
  have hmany : Criterion.AreTooMany (List.replicate 1000 (.equals "id" (.text "a"))) 0 :=
    Criterion.areTooMany_replicate "id" "a" (by decide) (by decide)
  have hquery (limit : UInt32) : ∃ query, m.select .sqlite (spec limit) = .ok query :=
    (TableMapping.translates_replicate .asset "a" 1000).exists_select (spec limit) rfl
  obtain ⟨none, hnone⟩ := hquery 0
  obtain ⟨one, hone⟩ := hquery 1
  refine ⟨rfl, rfl, by decide, hdocs, hkeys, Except.exists_of_isOk (by decide +kernel),
    fun limit => ?_, readAll_of_limit_zero hnone rfl,
    readAll_of_tooMany rfl hmany hone (show (1 : UInt32) ≠ 0 by decide)⟩
  obtain ⟨query, hq⟩ := hquery limit
  exact ⟨query, hq, TableMapping.select_of_tooMany hmany hq b.database⟩

end EntityStore

end LeasedStore
