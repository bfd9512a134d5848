/-
Counts and queries agree.

The statement that counts is put together apart from those that query: it has no order, no offset
and no limit, and no pages are read by it.  The filter is the same.  So a count is refused as the
queries are, it counts the rows that match, and of these a query answers those from the offset up to
the limit, each of them once.

* `Database.count_eq_length`: as many rows are counted as match;
* `EntityStore.count_of_isWhole`: a count comes to that number;
* `EntityStore.readAll_of_isWhole`: all pages of a query have the ids of the rows that match, from
  the offset up to the limit;
* `EntityStore.AgreesOn`, `agreesOn_of_isDecodable`: counts and queries agree where all rows can be
  read.
-/
import LeasedStore.Proofs.Sql.Dialects
import LeasedStore.Proofs.Store.Window

namespace LeasedStore

/-! ### What is counted -/

section Rows

variable {k : StoreKind} {filter : List Criterion} {query : Select.Bound} {db : Database}
  {t : Table}

/-- A count comes to the number of the rows that meet its filter, where all rows can be read. -/
lemma Database.count_eq_length (hd : db.IsDecodable k)
    (ht : db.table? k.schema.mapping.table = some t)
    (hq : k.schema.mapping.count .sqlite filter = .ok query) (hfits : query.Fits)
    (hwhole : ∀ c ∈ filter, ∀ target, k.schema.mapping.target? c.property = some target →
      target.IsWhole) :
    db.count query =
      .ok (t.rows.filter fun r => filter.all (Criterion.holdsOn k.schema.mapping r)).length := by
  obtain ⟨conditions, hquery, hrun⟩ := TableMapping.count_eq_ok hq
  have htable : query.query.table = k.schema.mapping.table := by rw [hquery]
  have hconditions : query.query.conditions = conditions := by rw [hquery]
  have hmeaning := hconditions ▸ (forall₂_of_filterConditions hrun).2
  have hleases : db.leasesOf query.query = .ok .empty := by
    rw [leasesOf, any_isOnLeases_of_forall₂ hmeaning]
    rfl
  -- every row can be read, so that no condition fails on any of them
  have hmatch : ∀ r ∈ query.candidates t, query.isMatch .empty t.definition r =
      .ok ((query.isMatch .empty t.definition r).toOption.getD false) := by
    intro r hr
    obtain ⟨e, he⟩ := hd t ht r (Select.Bound.mem_of_mem_candidates hr)
    obtain ⟨held, hheld⟩ : ∃ held, query.isMatch .empty t.definition r = .ok held :=
      Select.Bound.exists_isMatch hfits.patterns hmeaning fun c hc _ hsays =>
        hsays.exists_holds_of_ofRow he (hwhole c hc)
    rw [hheld]
    rfl
  have hiff : ∀ r ∈ t.rows,
      (r ∈ query.candidates t ∧ query.isMatch .empty t.definition r = .ok true) ↔
        filter.all (Criterion.holdsOn k.schema.mapping r) = true := by
    intro r hr
    obtain ⟨e, he⟩ := hd t ht r hr
    rw [Select.Bound.isMatch_iff_holdsOn hfits.patterns hmeaning (StoreKind.int_of_ofRow he) hr,
      List.all_eq_true]
    simp only [Criterion.holdsOn_iff]
  rw [count_eq_filter hfits (by rw [htable, ht]) hleases hmatch, Select.Bound.filter_isMatch hiff]

end Rows

namespace EntityStore

variable {k : StoreKind} {s : EntityStore k.Record} {spec : QuerySpec} {query : Select.Bound}
  {b : Backend} {t : Table} {filter : List Criterion}

/-! ### Counts and all pages -/

/-- A count whose criteria are all on what paths lead to: the number of the rows that meet them. -/
lemma count_of_isWhole (ho : b.isOpen = true) (hd : b.database.IsDecodable k)
    (ht : b.database.table? k.schema.mapping.table = some t)
    (hq : k.schema.mapping.count .sqlite filter = .ok query) (hfits : query.Fits)
    (hwhole : ∀ c ∈ filter, ∀ target, k.schema.mapping.target? c.property = some target →
      target.IsWhole) :
    s.count filter b =
      .ok (t.rows.filter fun r => filter.all (Criterion.holdsOn k.schema.mapping r)).length := by
  have hlift : Reading.lift ((s.mapping.count .sqlite filter).mapError .invalidQuery) b =
      .ok query := congrArg (Except.mapError StoreError.invalidQuery) hq
  rw [count, Reading.bind_of_ok hlift, Reading.bind_of_ok (Reading.connect_of_open ho)]
  exact Reading.database_of_ok (Database.count_eq_length hd ht hq hfits hwhole)

/-- All pages of a query whose criteria are all on what paths lead to: the rows that match, from the
offset up to the limit. -/
lemma readAll_of_isWhole (ho : b.isOpen = true) (hc : b.database.Conforms)
    (hd : b.database.IsDecodable k) (ht : b.database.table? k.schema.mapping.table = some t)
    (hsize : t.rows.length < UInt32.size)
    (hq : k.schema.mapping.select .sqlite spec = .ok query) (hfits : query.Fits)
    (hwhole : spec.IsWhole k.schema.mapping) :
    ∃ es, s.readAll spec b = .ok es ∧
      ids es = ((b.database.matchingIds k spec).drop spec.offset.toNat).take spec.limit.toNat := by
  have hlength : ((t.matching k.schema.mapping spec).map fun r =>
      r.project k.schema.mapping.columnNames).length < UInt32.size := by
    have hle : (t.rows.filter fun r => spec.holdsOn k.schema.mapping r).length ≤ t.rows.length :=
      List.length_filter_le ..
    rw [List.length_map, Table.matching, List.length_mergeSort]
    exact Nat.lt_of_le_of_lt hle hsize
  obtain ⟨es, hes, hids⟩ :=
    exists_mapM_matching spec hd ht spec.offset.toNat spec.limit.toNat
  refine ⟨es, ?_, hids⟩
  rw [readAll_of_select hq,
    readPages_eq (reads_of_isWhole ho hc hd ht hq hfits hwhole) (.inr hlength),
    hes]

/-! ### Counts and queries -/

/-- Do a count and the queries with its filter agree, whatever the size of their pages is? -/
structure AgreesOn (k : StoreKind) (filter : List Criterion) (b : Backend) : Prop where
  /-- The count is refused as the queries are that have no sort property. -/
  refused_iff (s s' : EntityStore k.Record) (spec : QuerySpec) (hfilter : spec.filter = filter)
    (hsort : spec.sortField = none) (e : QueryError) :
    (s.count filter b = .error (.invalidQuery e) ↔ s'.stream spec = .error (.invalidQuery e)) ∧
      (s.count filter b = .error (.invalidQuery e) ↔
        s'.readAll spec b = .error (.invalidQuery e))
  /-- Otherwise it is the number of the entities that match, if it is within the limits of the
  database.  A query in any order that there is, and within the limits as well, answers those of
  them from its offset up to its limit, each of them once. -/
  counted (s : EntityStore k.Record) (h : ∀ e, s.count filter b ≠ .error (.invalidQuery e))
    (hfits : ∀ query, k.schema.mapping.count .sqlite filter = .ok query → query.Fits) :
    ∃ n, s.count filter b = .ok n ∧
      ∀ (s' : EntityStore k.Record) (spec : QuerySpec) (query : Select.Bound),
        spec.filter = filter → k.schema.mapping.select .sqlite spec = .ok query → query.Fits →
          ∃ es, s'.readAll spec b = .ok es ∧
            ids es = ((b.database.matchingIds k spec).drop spec.offset.toNat).take
              spec.limit.toNat ∧
            es.length = min spec.limit.toNat (n - spec.offset.toNat) ∧
            (es.map Entity.id).Nodup ∧
            (spec.offset = 0 → n ≤ spec.limit.toNat → es.length = n)

/-- A filter with an error is refused, whether it is counted or queried. -/
lemma agreesOn_of_error {e : QueryError}
    (h : filter.mapM (Criterion.phrase k.schema.mapping) = .error e) : AgreesOn k filter b := by
  obtain ⟨-, hcount, hselect⟩ := TableMapping.fails_of_phrases h .sqlite []
  have hcounted (s : EntityStore k.Record) : s.count filter b = .error (.invalidQuery e) := by
    have hlift : Reading.lift ((s.mapping.count .sqlite filter).mapError .invalidQuery) b =
        .error (.invalidQuery e) := congrArg (Except.mapError StoreError.invalidQuery) hcount
    exact Reading.bind_of_error hlift _
  refine ⟨fun s s' spec hfilter hsort e' => ?_, fun s h => absurd (hcounted s) (h e)⟩
  have hcheck : s'.check spec = .error (.invalidQuery e) := check_of_error (hselect spec hfilter)
  have hstream : s'.stream spec = .error (.invalidQuery e) := by
    rw [stream, hcheck]
    rfl
  have hread : s'.readAll spec b = .error (.invalidQuery e) := by
    rw [readAll, hcheck]
    rfl
  rw [hcounted, hstream, hread]
  simp only [Except.error.injEq, and_self]

/-- A filter without an error is refused neither by a count nor by a query without a sort
property. -/
lemma isAccepted_of_phrases {ps : List Phrase}
    (h : filter.mapM (Criterion.phrase k.schema.mapping) = .ok ps) (s s' : EntityStore k.Record)
    (hfilter : spec.filter = filter) (hsort : spec.sortField = none) :
    IsAccepted (s.count filter b) ∧ IsAccepted (s'.stream spec) ∧
      IsAccepted (s'.readAll spec b) := by
  have hselect := TableMapping.select_of_phrases h .sqlite hfilter
  rw [TableMapping.order, hsort] at hselect
  refine ⟨isAccepted_count (TableMapping.count_of_phrases h .sqlite) b, ?_,
    isAccepted_readAll hselect b⟩
  rw [stream, check_of_select hselect]
  exact isAccepted_ok _

/-- A count that comes to the number of the rows that match agrees with a query that answers them,
from its offset up to its limit. -/
lemma length_of_ids {es : List k.Record} (hc : b.database.Conforms) (hd : b.database.IsDecodable k)
    (ht : b.database.table? k.schema.mapping.table = some t) (hfilter : spec.filter = filter)
    (hids : ids es =
      ((b.database.matchingIds k spec).drop spec.offset.toNat).take spec.limit.toNat) :
    es.length = min spec.limit.toNat ((t.rows.filter fun r =>
        filter.all (Criterion.holdsOn k.schema.mapping r)).length - spec.offset.toNat) ∧
      (es.map Entity.id).Nodup := by
  have hlength := congrArg List.length hids
  rw [length_ids, List.length_take, List.length_drop, Database.length_matchingIds ht hfilter]
    at hlength
  have hnodup : (ids es).Nodup := by
    rw [hids]
    exact (Database.nodup_matchingIds hc hd).sublist
      ((List.take_sublist ..).trans (List.drop_sublist ..))
  refine ⟨hlength, List.Nodup.of_map Cell.text ?_⟩
  rwa [List.map_map]

/-- Counts and queries with the same filter agree on a table all of whose rows can be read, with as
many of them as offsets can count, as far as they are within the limits of the database. -/
theorem agreesOn_of_isDecodable (ho : b.isOpen = true) (hc : b.database.Conforms)
    (hd : b.database.IsDecodable k) (ht : b.database.table? k.schema.mapping.table = some t)
    (hsize : t.rows.length < UInt32.size)
    (hkeys : ({ QuerySpec.new with filter := filter } : QuerySpec).HasPlainKeys
      k.schema.mapping) : AgreesOn k filter b := by
  cases h : filter.mapM (Criterion.phrase k.schema.mapping) with
  | error e => exact agreesOn_of_error h
  | ok ps =>
      refine ⟨fun s s' spec hfilter hsort e => ?refused, fun s _ hfits => ?counted⟩
      case refused =>
        obtain ⟨hcount, hstream, hread⟩ := isAccepted_of_phrases (b := b) h s s' hfilter hsort
        exact ⟨iff_of_false (hcount e) (hstream e), iff_of_false (hcount e) (hread e)⟩
      case counted =>
        have hcount := TableMapping.count_of_phrases h .sqlite
        refine ⟨_, count_of_isWhole ho hd ht hcount (hfits _ hcount) hkeys.isWhole,
          fun s' spec query hfilter hq hfits => ?_⟩
        have hwhole : spec.IsWhole k.schema.mapping := fun c hc =>
          hkeys.isWhole c (by rwa [hfilter] at hc)
        obtain ⟨es, hes, hids⟩ := readAll_of_isWhole (s := s') ho hc hd ht hsize hq hfits hwhole
        obtain ⟨hlength, hnodup⟩ := length_of_ids hc hd ht hfilter hids
        refine ⟨es, hes, hids, hlength, hnodup, fun hoffset hlimit => ?_⟩
        rw [hlength, hoffset, UInt32.toNat_zero, Nat.sub_zero, Nat.min_eq_right hlimit]

/-- Three assets, two of them with the same number, once as an integer and once as a string: they
are counted, and behind the first one, which is the later one, a query finds the other one. -/
theorem agreesOn_of_assets :
    let asset (id document : String) (createdAt : Int64) : Row :=
      ⟨[("id", .text id), ("properties", .text document), ("data_address", .text "\x7b\x7d"),
        ("created_at", .int createdAt)]⟩
    let t : Table := ⟨Asset.schema.tableDef, [asset "a" "\x7b\"n\":7\x7d" 0,
      asset "b" "\x7b\"n\":\"7\"\x7d" 1, asset "c" "\x7b\"n\":8\x7d" 2], by decide⟩
    let b : Backend := ⟨⟨none, [t]⟩, true, ⟨0⟩, .empty⟩
    let filter : List Criterion := [⟨"properties.n", Operator.equal, .int 7⟩]
    let m := StoreKind.asset.schema.mapping
    let s : EntityStore StoreKind.asset.Record := .new _ 1000 1
    b.isOpen = true ∧ b.database.Conforms ∧ b.database.IsDecodable .asset ∧
      b.database.table? m.table = some t ∧ t.rows.length < UInt32.size ∧
      ({ QuerySpec.new with filter := filter } : QuerySpec).HasPlainKeys m ∧
      AgreesOn .asset filter b ∧ s.count filter b = .ok 2 ∧
      ∃ es, s.readAll ⟨filter, some "createdAt", .descending, 1, 5⟩ b = .ok es ∧ es.length = 1 := by
  intro asset t b filter m s
  have hc : b.database.Conforms := by
    intro k t' ht'
    cases k <;> cases ht'
    rfl
  have hd : b.database.IsDecodable .asset := by decide +kernel
  have hkeys : ({ QuerySpec.new with filter := filter } : QuerySpec).HasPlainKeys m := by
    intro c hc column keys hm
    cases List.mem_singleton.mp hc
    have htarget : m.target? "properties.n" =
        some (.member ⟨"properties", "properties", .json⟩ ["n"]) := by decide +kernel
    cases htarget.symm.trans hm
    simp
  have hcount : s.count filter b = .ok 2 := by cbv
  have hagrees : AgreesOn .asset filter b :=
    agreesOn_of_isDecodable rfl hc hd (t := t) rfl (by decide) hkeys
  have hmodest : m.IsModest filter 2 0 :=
    TableMapping.isModest_of_no_pattern (by decide) (by decide) (by decide)
  have htranslates : m.Translates filter := ⟨_, _, rfl⟩
  obtain ⟨query, hq⟩ := htranslates.exists_select
    ⟨filter, some "createdAt", .descending, 1, 5⟩ rfl
  have hfits : query.Fits := TableMapping.fits_of_isModest hmodest hq
  obtain ⟨n, hn, hqueries⟩ := hagrees.counted s (fun e h => by cases hcount.symm.trans h)
    fun query' hq' => TableMapping.fits_count_of_fits hq hfits hq'
  cases hcount.symm.trans hn
  obtain ⟨es, hes, -, hlength, -⟩ := hqueries s _ query rfl hq hfits
  exact ⟨rfl, hc, hd, rfl, by decide, hkeys, hagrees, hcount, es, hes, hlength⟩

/-- A thousand criteria that an asset meets can be put into a query, but the database refuses to
count what meets them, and to answer it. -/
theorem count_of_thousand_criteria :
    let row : Row :=
      ⟨[("id", .text "a"), ("properties", .text "{}"), ("data_address", .text "{}"),
        ("created_at", .int 0)]⟩
    let t : Table := ⟨Asset.schema.tableDef, [row], by decide⟩
    let b : Backend := ⟨⟨none, [t]⟩, true, ⟨0⟩, .empty⟩
    let m := StoreKind.asset.schema.mapping
    let filter := List.replicate 1000 (Criterion.equals "id" (.text "a"))
    let spec : QuerySpec := ⟨filter, none, .ascending, 0, 1⟩
    let s : EntityStore StoreKind.asset.Record := .new _ 1000 1
    b.isOpen = true ∧ b.database.Conforms ∧ b.database.IsDecodable .asset ∧
      b.database.table? m.table = some t ∧ t.rows.length < UInt32.size ∧
      ({ QuerySpec.new with filter := filter } : QuerySpec).HasPlainKeys m ∧
      b.database.matchingIds .asset spec = [.text "a"] ∧
      (∃ query, m.select .sqlite spec = .ok query) ∧
      s.count filter b = .error (.database .tooDeep) ∧
      s.readAll spec b = .error (.database .tooDeep) := by
  intro row t b m filter spec s
  have hc : b.database.Conforms := Database.conforms_single (k := .asset) none rfl
  have hkeys : ({ QuerySpec.new with filter := filter } : QuerySpec).HasPlainKeys m :=
    QuerySpec.hasPlainKeys_replicate (k := .asset) rfl
  have hmatching : b.database.matchingIds .asset spec = [.text "a"] :=
    Database.matchingIds_of_singleton (t := t) rfl rfl fun c hc => by
      cases List.eq_of_mem_replicate hc
      decide +kernel
  have hmany : Criterion.AreTooMany filter 0 :=
    Criterion.areTooMany_replicate "id" "a" (by decide) (by decide)
  have htranslates := TableMapping.translates_replicate .asset "a" 1000
  obtain ⟨query, hq⟩ := htranslates.exists_select spec rfl
  obtain ⟨counted, hcounted⟩ := htranslates.exists_count
  exact ⟨rfl, hc, by decide +kernel, rfl, by decide, hkeys, hmatching, ⟨query, hq⟩,
    count_of_tooMany rfl hmany hcounted,
    readAll_of_tooMany rfl hmany hq (show (1 : UInt32) ≠ 0 by decide)⟩

end EntityStore

end LeasedStore
