/-
Look-ups by id and filter agree with look-ups by id.

The one is a query, whose last criterion is on the id, and reads pages of one row; the other reads
the row under a key.  The first finds what the second does where the entity is among those that
match the filter, and nothing else: so it does not matter whether the filter has something to say of
ids, nor what the entities of other ids look like, as long as they can be read.

* `EntityStore.AnswersAll`: which entities does a query ask for, if it has no offset and no limit?
* `EntityStore.exists_answersAll`: those of the rows that match, whatever the size of pages is;
* `EntityStore.Finds`, `finds_of_isDecodable`: a look-up by id and filter finds the entity of the
  row under the id, if the row matches;
* `EntityStore.LooksUp`, `looksUp_of_isDecodable`: such look-ups agree with look-ups by id and with
  queries where all rows can be read.
-/
import LeasedStore.Proofs.Store.Counting
import LeasedStore.Proofs.Store.Excess
import LeasedStore.Proofs.Store.Matching

namespace LeasedStore

/-! ### Filters with one more criterion -/

namespace TableMapping

variable {m : TableMapping} {filter : List Criterion} {e : QueryError}

/-- What is wrong with a filter, if anything is. -/
def Refuses (m : TableMapping) (filter : List Criterion) (e : QueryError) : Prop :=
  ((filterConditions m .sqlite filter).runOn []).1 = .error e

/-- A filter is refused for the first of its criteria that cannot be put into words. -/
lemma refuses_iff : m.Refuses filter e ↔ filter.mapM (Criterion.phrase m) = .error e := by
  have hconditions := yields_filterConditions m .sqlite filter []
  rw [Refuses]
  cases h : filter.mapM (Criterion.phrase m) with
  | error e' =>
      rw [h] at hconditions
      rw [show ((filterConditions m .sqlite filter).runOn []).1 = .error e' from hconditions]
      simp
  | ok ps =>
      rw [h] at hconditions
      rw [show (filterConditions m .sqlite filter).runOn [] = _ from hconditions]
      simp

/-- A filter translates if its criteria can all be put into words. -/
lemma translates_iff :
    m.Translates filter ↔ ∃ ps, filter.mapM (Criterion.phrase m) = .ok ps := by
  have hconditions := yields_filterConditions m .sqlite filter []
  rw [Translates]
  cases h : filter.mapM (Criterion.phrase m) with
  | error e =>
      rw [h] at hconditions
      have hrefuses : ((filterConditions m .sqlite filter).runOn []).1 = .error e := hconditions
      simp [Prod.ext_iff, hrefuses]
  | ok ps =>
      rw [h] at hconditions
      have hrun : (filterConditions m .sqlite filter).runOn [] = _ := hconditions
      simp [hrun]

end TableMapping

/-- A criterion on the id holds on the rows that have it. -/
lemma Criterion.holdsOn_id {k : StoreKind} {r : Row} {id : String} :
    (Criterion.equals k.schema.mapping.idProperty (.text id)).HoldsOn k.schema.mapping r ↔
      r.cell k.schema.mapping.idColumn = .text id := by
  constructor
  · rintro ⟨target, d, htarget, hd, v, hv, hheld⟩
    cases k.target?_idProperty.symm.trans htarget
    cases hd
    cases hv
    exact Comparison.eq_of_equal_holds_text hheld
  · intro hcell
    refine ⟨_, _, k.target?_idProperty, rfl, .text id, rfl, ?_⟩
    rw [hcell]
    exact Comparison.equal_holds_text.mpr rfl

namespace EntityStore

variable {k : StoreKind} {s : EntityStore k.Record} {spec : QuerySpec} {query : Select.Bound}
  {b : Backend} {t : Table} {filter : List Criterion}

/-! ### All that a query asks for -/

/-- Are some entities all that a query asks for, whatever its offset and its limit are?  Without an
offset it answers the first of them, up to its limit. -/
def AnswersAll {α : Type} [Entity α] (s : EntityStore α) (spec : QuerySpec) (b : Backend)
    (all : List α) : Prop :=
  ∀ limit : UInt32,
    s.readAll { spec with offset := 0, limit := limit } b = .ok (all.take limit.toNat)

/-- A query whose criteria are all on what paths lead to asks for the entities of the rows that
match, whatever the size of pages is. -/
lemma exists_answersAll (ho : b.isOpen = true) (hc : b.database.Conforms)
    (hd : b.database.IsDecodable k) (ht : b.database.table? k.schema.mapping.table = some t)
    (hq : k.schema.mapping.select .sqlite spec = .ok query) (hfits : query.Fits)
    (hwhole : spec.IsWhole k.schema.mapping) :
    ∃ all : List k.Record, (∀ s : EntityStore k.Record, s.AnswersAll spec b all) ∧
      ∀ e, e ∈ all ↔
        ∃ r ∈ t.rows, (∀ c ∈ spec.filter, c.HoldsOn k.schema.mapping r) ∧
          Entity.ofRow r = .ok e := by
  obtain ⟨all, hall⟩ : ∃ all : List k.Record,
      ((t.matching k.schema.mapping spec).map fun r =>
        r.project k.schema.mapping.columnNames).mapM Entity.ofRow = .ok all := by
    refine Except.exists_mapM fun r' hr' => ?_
    obtain ⟨r, hr, rfl⟩ := List.mem_map.mp hr'
    exact hd t ht r (Table.mem_matching.mp hr).1
  refine ⟨all, fun s limit => ?_, fun e => ⟨fun he => ?_, ?_⟩⟩
  -- all of the answer lies in one window, whatever the size of pages is
  · have hreads := reads_of_isWhole (s := s) ho hc hd ht hq hfits hwhole
    have hpart : s.Reads { spec with offset := 0, limit := limit } b _ := fun offset limit =>
      hreads offset limit
    obtain ⟨query', hq'⟩ := TableMapping.exists_select hq 0 limit
    rw [readAll_of_select hq', readPages_eq hpart (.inl (by simpa using limit.toNat_lt))]
    exact Except.mapM_take hall limit.toNat
  · obtain ⟨r', hr', he⟩ := Except.exists_of_mem_mapM hall he
    obtain ⟨r, hr, rfl⟩ := List.mem_map.mp hr'
    rw [k.ofRow_project] at he
    obtain ⟨hmem, hholds⟩ := Table.mem_matching.mp hr
    exact ⟨r, hmem, hholds, he⟩
  · rintro ⟨r, hmem, hholds, he⟩
    rw [← k.ofRow_project] at he
    exact Except.mem_mapM_of_mem hall
      (List.mem_map_of_mem (Table.mem_matching.mpr ⟨hmem, hholds⟩)) he

/-! ### The entity of an id -/

/-- Does a look-up by id and filter find the entity of the row under the id, if the row matches? -/
def Finds (s : EntityStore k.Record) (id : String) (filter : List Criterion) (b : Backend) : Prop :=
  ∃ found, s.findMatching id filter b = .ok found ∧ ∀ e, found = some e ↔
    ∃ r, b.database.row? k id = some r ∧ (∀ c ∈ filter, c.HoldsOn k.schema.mapping r) ∧
      Entity.ofRow r = .ok e

/-- The row that satisfies a filter and the criterion for an id behind it is the row under the id,
if that one satisfies the filter. -/
lemma mem_rows_and_holdsOn_id_iff (hc : b.database.Conforms)
    (ht : b.database.table? k.schema.mapping.table = some t) (filter : List Criterion) (id : String)
    (r : Row) :
    (r ∈ t.rows ∧ ∀ c ∈ filter ++ [.equals k.schema.mapping.idProperty (.text id)],
      c.HoldsOn k.schema.mapping r) ↔
        b.database.row? k id = some r ∧ ∀ c ∈ filter, c.HoldsOn k.schema.mapping r := by
  have hrow : r ∈ t.rows ∧ t.key? r = some (.text id) ↔ t.find? (.text id) = some r :=
    ⟨fun ⟨hr, hkey⟩ => Table.find?_of_mem hr hkey, fun hr =>
      ⟨Table.mem_rows_of_find? hr, by simpa using List.find?_some hr⟩⟩
  rw [List.forall_mem_append, List.forall_mem_singleton, Criterion.holdsOn_id,
    ← Table.key?_eq_iff (hc k t ht), Database.row?_of_table? ht, ← hrow]
  tauto

/-- A look-up whose criteria are all on what paths lead to finds the entity of the row under its id,
if the row matches. -/
lemma finds_of_isWhole (ho : b.isOpen = true) (hc : b.database.Conforms)
    (hd : b.database.IsDecodable k) (ht : b.database.table? k.schema.mapping.table = some t)
    (hf : k.schema.mapping.Translates filter) (hfits : k.schema.mapping.FitsLookUp filter)
    (hwhole : ∀ c ∈ filter, ∀ target, k.schema.mapping.target? c.property = some target →
      target.IsWhole) (s : EntityStore k.Record) (id : String) : s.Finds id filter b := by
  obtain ⟨query, hq⟩ := hf.exists_lookUp id
  have hwhole' : (firstOf (filter ++ [.equals k.schema.mapping.idProperty (.text id)])).IsWhole
      k.schema.mapping := by
    intro c hc target htarget
    rcases List.mem_append.mp hc with hc | hc
    · exact hwhole c hc target htarget
    · cases List.mem_singleton.mp hc
      cases k.target?_idProperty.symm.trans htarget
      trivial
  obtain ⟨all, hanswers, hmem⟩ := exists_answersAll ho hc hd ht hq (hfits id query hq) hwhole'
  have hread : s.readAll (firstOf (filter ++ [.equals s.mapping.idProperty (.text id)])) b =
      .ok (all.take 1) := hanswers s 1
  have hall (e : k.Record) : e ∈ all ↔ ∃ r, b.database.row? k id = some r ∧
      (∀ c ∈ filter, c.HoldsOn k.schema.mapping r) ∧ Entity.ofRow r = .ok e := by
    rw [hmem]
    refine exists_congr fun r => ?_
    rw [← and_assoc, ← and_assoc]
    exact and_congr_left fun _ => mem_rows_and_holdsOn_id_iff hc ht filter id r
  refine ⟨all.head?, ?_, fun e => ⟨fun he => (hall e).mp (List.mem_of_head? he), fun he => ?_⟩⟩
  · rw [findMatching, Reading.bind_of_ok hread, Reading.pure_apply, List.head?_take]
    rfl
  · -- all that is answered comes from the same row
    have he' := (hall e).mpr he
    obtain ⟨r, hr, -, hof⟩ := he
    cases hhead : all.head? with
    | none =>
        rw [List.head?_eq_none_iff.mp hhead] at he'
        cases he'
    | some first =>
        obtain ⟨r', hr', -, hof'⟩ := (hall first).mp (List.mem_of_head? hhead)
        cases hr.symm.trans hr'
        cases hof.symm.trans hof'
        rfl

/-! ### The two look-ups -/

/-- Do look-ups by id with a filter agree with look-ups by id alone and with the queries with the
filter, whatever the size of pages is? -/
structure LooksUp (k : StoreKind) (filter : List Criterion) (b : Backend) : Prop where
  /-- A look-up is refused for what is wrong with its filter, whether or not there is an entity of
  the id. -/
  refused_iff (s : EntityStore k.Record) (id : String) (e : QueryError) :
    s.findMatching id filter b = .error (.invalidQuery e) ↔ k.schema.mapping.Refuses filter e
  /-- Otherwise it finds the entity that is found under the id, if a query in any order that there
  is asks for it, and else none, as long as look-ups are within the limits of the database. -/
  found (s : EntityStore k.Record) (id : String) (h : ∀ e, ¬ k.schema.mapping.Refuses filter e)
    (hfits : k.schema.mapping.FitsLookUp filter) :
    ∃ found, s.findMatching id filter b = .ok found ∧
      ∀ (spec : QuerySpec) (order : List (String × SortOrder)), spec.filter = filter →
        k.schema.mapping.order spec = .ok order →
          ∃ all, (∀ s' : EntityStore k.Record, s'.AnswersAll spec b all) ∧
            ∀ (s' : EntityStore k.Record) (e : k.Record),
              found = some e ↔ s'.find id b = .ok (some e) ∧ e ∈ all
  /-- Without a criterion it finds what is found under the id. -/
  unfiltered (s s' : EntityStore k.Record) (id : String) :
    s.findMatching id [] b = s'.find id b

/-- A look-up with a filter that is refused is refused for the same reason. -/
lemma findMatching_of_refuses {e : QueryError} (h : k.schema.mapping.Refuses filter e)
    (s : EntityStore k.Record) (id : String) :
    s.findMatching id filter b = .error (.invalidQuery e) := by
  have hphrases : (filter ++ [Criterion.equals k.schema.mapping.idProperty (.text id)]).mapM
      (Criterion.phrase k.schema.mapping) = .error e := by
    rw [List.mapM_append, TableMapping.refuses_iff.mp h]
    rfl
  obtain ⟨-, -, hselect⟩ := TableMapping.fails_of_phrases hphrases .sqlite []
  have hread : s.readAll (firstOf (filter ++ [.equals s.mapping.idProperty (.text id)])) b =
      .error (.invalidQuery e) := by
    rw [readAll, check_of_error (hselect _ rfl)]
    rfl
  exact Reading.bind_of_error hread _

lemma isAccepted_findMatching (hf : k.schema.mapping.Translates filter) (s : EntityStore k.Record)
    (id : String) : IsAccepted (s.findMatching id filter b) := by
  obtain ⟨query, hq⟩ := hf.exists_lookUp id
  exact isAccepted_bind.mpr ⟨isAccepted_readAll hq b, fun found _ => isAccepted_ok _⟩

/-- What is found under an id is what can be read of its row, where all rows can be read. -/
lemma find_eq_of_isDecodable (ho : b.isOpen = true) (hd : b.database.IsDecodable k)
    (ht : b.database.table? k.schema.mapping.table = some t) (s : EntityStore k.Record)
    (id : String) {found : Option k.Record}
    (h : ∀ e, found = some e ↔ ∃ r, b.database.row? k id = some r ∧ Entity.ofRow r = .ok e) :
    s.find id b = .ok found := by
  cases hr : b.database.row? k id with
  | none =>
      have hnone : found = none := Option.eq_none_iff_forall_ne_some.mpr fun e he => by
        obtain ⟨r, hrow, -⟩ := (h e).mp he
        cases hr.symm.trans hrow
      rw [find_of_absent ho ht hr, hnone]
  | some r =>
      have hmem : r ∈ t.rows := Table.mem_rows_of_find? (Database.row?_of_table? ht id ▸ hr)
      obtain ⟨e, he⟩ := hd t ht r hmem
      rw [k.ofRow_project] at he
      rw [find_of_row? ho hr he, (h e).mpr ⟨r, hr, he⟩]

/-- A row from which the same entity is read as from the row under an id is the row under that
id. -/
lemma row?_of_ofRow (hc : b.database.Conforms)
    (ht : b.database.table? k.schema.mapping.table = some t) {id : String} {r r' : Row}
    {e : k.Record} (hr : b.database.row? k id = some r) (he : Entity.ofRow r = .ok e)
    (hmem : r' ∈ t.rows) (he' : Entity.ofRow r' = .ok e) : b.database.row? k id = some r' := by
  rw [← k.ofRow_project] at he he'
  rw [Database.row?_of_table? ht] at hr ⊢
  have hkey : t.key? r = some (.text id) := by simpa using List.find?_some hr
  have hcell := (Table.key?_eq_iff (hc k t ht)).mp hkey
  rw [StoreKind.cell_of_ofRow he] at hcell
  exact Table.find?_of_mem hmem ((Table.key?_eq_iff (hc k t ht)).mpr
    ((StoreKind.cell_of_ofRow he').trans hcell))

/-- Look-ups by id and filter agree with look-ups by id and with queries on a table all of whose
rows can be read, also where the filter is about the id, as far as they are within the limits of the
database. -/
theorem looksUp_of_isDecodable (ho : b.isOpen = true) (hc : b.database.Conforms)
    (hd : b.database.IsDecodable k) (ht : b.database.table? k.schema.mapping.table = some t)
    (hkeys : ({ QuerySpec.new with filter := filter } : QuerySpec).HasPlainKeys
      k.schema.mapping) : LooksUp k filter b := by
  refine ⟨fun s id e => ⟨fun h => ?refused, fun h => findMatching_of_refuses h s id⟩,
    fun s id h hfits => ?found, fun s s' id => ?unfiltered⟩
  case refused =>
    cases hp : filter.mapM (Criterion.phrase k.schema.mapping) with
    | error e' =>
        have hrefuses := TableMapping.refuses_iff.mpr hp
        cases h.symm.trans (findMatching_of_refuses hrefuses s id)
        exact hrefuses
    | ok ps =>
        exact absurd h (isAccepted_findMatching (TableMapping.translates_iff.mpr ⟨ps, hp⟩) s id e)
  case found =>
    obtain ⟨ps, hps⟩ : ∃ ps, filter.mapM (Criterion.phrase k.schema.mapping) = .ok ps := by
      cases hp : filter.mapM (Criterion.phrase k.schema.mapping) with
      | error e => exact absurd (TableMapping.refuses_iff.mpr hp) (h e)
      | ok ps => exact ⟨ps, rfl⟩
    obtain ⟨found, hfound, hrow⟩ := finds_of_isWhole ho hc hd ht
      (TableMapping.translates_iff.mpr ⟨ps, hps⟩) hfits hkeys.isWhole s id
    refine ⟨found, hfound, fun spec order hfilter horder => ?_⟩
    have hq := TableMapping.select_of_phrases hps .sqlite hfilter
    rw [horder] at hq
    have hwhole : spec.IsWhole k.schema.mapping := fun c hc =>
      hkeys.isWhole c (by rwa [hfilter] at hc)
    obtain ⟨all, hanswers, hall⟩ :=
      exists_answersAll ho hc hd ht hq (hfits.fits hfilter hq) hwhole
    refine ⟨all, hanswers, fun s' e => ?_⟩
    rw [hrow, find_eq_some_iff, hall, hfilter]
    constructor
    -- an id has one row, so that the row which is looked up is the one among the answers
    · rintro ⟨r, hr, hholds, he⟩
      have hmem : r ∈ t.rows := Table.mem_rows_of_find? (Database.row?_of_table? ht id ▸ hr)
      exact ⟨⟨ho, r, hr, he⟩, r, hmem, hholds, he⟩
    · rintro ⟨⟨-, r, hr, he⟩, r', hmem, hholds, he'⟩
      exact ⟨r', row?_of_ofRow hc ht hr he hmem he', hholds, he'⟩
  case unfiltered =>
    have hf : k.schema.mapping.Translates [] := ⟨[], [], rfl⟩
    have hfits : k.schema.mapping.FitsLookUp [] := TableMapping.fitsLookUp_of_isModest hf
      (TableMapping.isModest_of_no_pattern (by decide) (by decide) (by simp))
    have hfinds : s.Finds id [] b := finds_of_isWhole ho hc hd ht hf hfits (by simp) s id
    obtain ⟨found, hfound, hrow⟩ := hfinds
    rw [hfound, find_eq_of_isDecodable ho hd ht s' id (by simpa using hrow)]

/-- Two assets with the same number and a filter for that number and one of the ids: the look-up
finds the asset of that id, with pages of one row as with larger ones, and not the other one. -/
theorem looksUp_of_assets :
    let asset (id document : String) (createdAt : Int64) : Row :=
      ⟨[("id", .text id), ("properties", .text document), ("data_address", .text "\x7b\x7d"),
        ("created_at", .int createdAt)]⟩
    let t : Table := ⟨Asset.schema.tableDef, [asset "a" "\x7b\"n\":7\x7d" 0,
      asset "b" "\x7b\"n\":\"7\"\x7d" 1], by decide⟩
    let b : Backend := ⟨⟨none, [t]⟩, true, ⟨0⟩, .empty⟩
    let filter : List Criterion := [⟨"properties.n", Operator.equal, .int 7⟩,
      ⟨"id", .oneOf, .list [.text "b", .text "c"]⟩]
    let m := StoreKind.asset.schema.mapping
    let s (pageSize : UInt32) : EntityStore StoreKind.asset.Record := .new _ 1000 pageSize
    b.isOpen = true ∧ b.database.Conforms ∧ b.database.IsDecodable .asset ∧
      b.database.table? m.table = some t ∧
      ({ QuerySpec.new with filter := filter } : QuerySpec).HasPlainKeys m ∧
      LooksUp .asset filter b ∧ (s 1).findMatching "a" filter b = .ok none ∧
      ∃ e, (s 1).findMatching "b" filter b = .ok (some e) ∧ (s 7).find "b" b = .ok (some e) := by
  intro asset t b filter m s
  have hc : b.database.Conforms := Database.conforms_single (k := .asset) none rfl
  have hd : b.database.IsDecodable .asset := by decide +kernel
  have hkeys : ({ QuerySpec.new with filter := filter } : QuerySpec).HasPlainKeys m := by
    intro c hc column keys hm
    rcases List.mem_pair.mp hc with rfl | rfl
    · have htarget : m.target? "properties.n" =
          some (.member ⟨"properties", "properties", .json⟩ ["n"]) := by decide +kernel
      cases htarget.symm.trans hm
      simp
    · cases (StoreKind.asset.target?_idProperty).symm.trans hm
  have hlooks : LooksUp .asset filter b := looksUp_of_isDecodable rfl hc hd (t := t) rfl hkeys
  have hb : ∃ e, (s 1).findMatching "b" filter b = .ok (some e) := ⟨_, by cbv⟩
  obtain ⟨e, he⟩ := hb
  have hfits : m.FitsLookUp filter := TableMapping.fitsLookUp_of_isModest ⟨_, _, rfl⟩
    (TableMapping.isModest_of_no_pattern (by decide) (by decide) (by decide))
  obtain ⟨found, hfound, hqueries⟩ := hlooks.found (s 1) "b" (fun e' h => by
    cases he.symm.trans ((hlooks.refused_iff (s 1) "b" e').mpr h)) hfits
  cases he.symm.trans hfound
  obtain ⟨all, -, hall⟩ := hqueries { QuerySpec.new with filter := filter } _ rfl rfl
  exact ⟨rfl, hc, hd, rfl, hkeys, hlooks, by cbv, e, he, ((hall (s 7) e).mp rfl).1⟩

/-- With so many criteria that there is no room for one more on the id, queries ask for the asset
that meets them all, and it is found under its id, but the look-up by id and filter is refused by
the database. -/
theorem findMatching_of_criteria_without_room :
    let row : Row :=
      ⟨[("id", .text "a"), ("properties", .text "\x7b\x7d"), ("data_address", .text "\x7b\x7d"),
        ("created_at", .int 0)]⟩
    let t : Table := ⟨Asset.schema.tableDef, [row], by decide⟩
    let b : Backend := ⟨⟨none, [t]⟩, true, ⟨0⟩, .empty⟩
    let m := StoreKind.asset.schema.mapping
    let filter := List.replicate 999 (Criterion.equals "id" (.text "a"))
    let spec : QuerySpec := { QuerySpec.new with filter := filter }
    b.isOpen = true ∧ b.database.Conforms ∧ b.database.IsDecodable .asset ∧
      b.database.table? m.table = some t ∧ spec.HasPlainKeys m ∧ (∀ e, ¬ m.Refuses filter e) ∧
      ∃ (e : StoreKind.asset.Record) (all : List StoreKind.asset.Record), e ∈ all ∧
        (∀ s : EntityStore StoreKind.asset.Record, s.AnswersAll spec b all) ∧
        ∀ s : EntityStore StoreKind.asset.Record, s.find "a" b = .ok (some e) ∧
          s.findMatching "a" filter b = .error (.database .tooDeep) := by
  intro row t b m filter spec
  have hc : b.database.Conforms := Database.conforms_single (k := .asset) none rfl
  have hd : b.database.IsDecodable .asset := by decide +kernel
  have hkeys : spec.HasPlainKeys m :=
    QuerySpec.hasPlainKeys_replicate (k := .asset) rfl
  have hf : m.Translates filter := TableMapping.translates_replicate .asset "a" 999
  have haccepted : ∀ e, ¬ m.Refuses filter e := by
    obtain ⟨ps, hps⟩ := TableMapping.translates_iff.mp hf
    intro e he
    cases (TableMapping.refuses_iff.mp he).symm.trans hps
  obtain ⟨query, hq⟩ := hf.exists_select spec rfl
  have hfits : query.Fits := TableMapping.fits_of_replicate (by decide) rfl hq
  obtain ⟨all, hanswers, hall⟩ := exists_answersAll (t := t) rfl hc hd rfl hq hfits hkeys.isWhole
  obtain ⟨e, he⟩ := Except.exists_of_isOk (x := Asset.ofRow row) (by decide +kernel)
  have hrow : b.database.row? .asset "a" = some row := rfl
  refine ⟨rfl, hc, hd, rfl, hkeys, haccepted, e, all, (hall e).mpr ?_, hanswers, fun s => ⟨?_, ?_⟩⟩
  · refine ⟨row, List.mem_singleton_self row, fun c hc => ?_, he⟩
    cases List.eq_of_mem_replicate hc
    exact Criterion.holdsOn_id.mpr rfl
  · exact find_of_row? rfl hrow he
  · exact findMatching_of_tooMany rfl
      (Criterion.areTooMany_replicate "id" "a" (by decide) (by decide)) hf "a"

end EntityStore

end LeasedStore
