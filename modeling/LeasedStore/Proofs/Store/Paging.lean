/-
Queries that are read page by page.

* `EntityStore.readRows_of_select`: a query in one piece;
* `EntityStore.fetchPage_eq_some`: the first page of a query and what is left to read behind it;
* `EntityStore.Reads`: do queries answer parts of some rows?
* `EntityStore.readPages_eq`: all pages together are what a single query answers.
-/
import LeasedStore.Proofs.Backend
import LeasedStore.Store.Page

namespace LeasedStore

/-- The query for what follows some rows starts behind them, and behind the last offset at the first
one again. -/
lemma QuerySpec.toNat_offset_behind (spec : QuerySpec) (n : UInt32) :
    (spec.behind n).offset.toNat = (spec.offset.toNat + n.toNat) % UInt32.size :=
  UInt32.toNat_add ..

/-- It starts behind them and asks for as many fewer, as long as there are rows to be counted. -/
lemma QuerySpec.toNat_behind {spec : QuerySpec} {n : UInt32} (hn : n ≤ spec.limit)
    (hroom : spec.offset.toNat + n.toNat < UInt32.size) :
    (spec.behind n).offset.toNat = spec.offset.toNat + n.toNat ∧
      (spec.behind n).limit.toNat = spec.limit.toNat - n.toNat :=
  ⟨(spec.toNat_offset_behind n).trans (Nat.mod_eq_of_lt hroom), UInt32.toNat_sub_of_le _ _ hn⟩

namespace EntityStore

variable {α : Type} {s : EntityStore α} {spec : QuerySpec}

/-! ### The first page -/

lemma pageLimit_le (s : EntityStore α) (spec : QuerySpec) : s.pageLimit spec ≤ spec.limit := by
  rw [pageLimit]
  split
  · exact UInt32.le_refl _
  · next h => exact UInt32.not_lt.mp h

/-- A page asks for as many rows as the query does, and a page has. -/
lemma toNat_pageLimit (s : EntityStore α) (spec : QuerySpec) :
    (s.pageLimit spec).toNat = min spec.limit.toNat s.pageSize.toNat := by
  rw [pageLimit]
  split
  · next h =>
    have hlt := UInt32.lt_iff_toNat_lt.mp h
    omega
  · next h =>
    have hle := UInt32.le_iff_toNat_le.mp (UInt32.not_lt.mp h)
    omega

/-- A page that is not the last one asks for rows. -/
lemma pageLimit_pos (h : s.pageLimit spec < spec.limit) : 0 < (s.pageLimit spec).toNat := by
  rw [pageLimit] at h ⊢
  split at h
  · exact absurd h (UInt32.lt_irrefl _)
  · next hle =>
    rw [if_neg hle]
    exact UInt32.lt_iff_toNat_lt.mp s.pageSize_pos

variable [Entity α] {b : Backend} {rows : List Row}

/-- The rows that a query answers in one piece are read as entities. -/
lemma readRows_of_select {query : Select.Bound} (ho : b.isOpen = true)
    (hq : s.mapping.select .sqlite spec = .ok query) (hrows : b.database.select query = .ok rows) :
    s.readRows spec b = rows.mapM Entity.ofRow := by
  have hlift : Reading.lift ((s.mapping.select .sqlite spec).mapError .invalidQuery) b =
      .ok query := by
    rw [hq]
    rfl
  rw [readRows, Reading.bind_of_ok hlift, Reading.bind_of_ok (Reading.connect_of_open ho),
    Reading.bind_of_ok (Reading.database_of_ok hrows)]
  rfl

lemma check_of_select {query : Select.Bound}
    (hq : s.mapping.select .sqlite spec = .ok query) : s.check spec = .ok () := by
  rw [check, hq]

lemma check_of_error {e : QueryError} (hq : s.mapping.select .sqlite spec = .error e) :
    s.check spec = .error (.invalidQuery e) := by
  rw [check, hq]

lemma readAll_of_select {query : Select.Bound} (hq : s.mapping.select .sqlite spec = .ok query) :
    s.readAll spec b = s.readPages spec b := by
  rw [readAll, check_of_select hq]
  rfl

/-- A page that cannot be read comes from rows that cannot be read. -/
lemma fetchPage_eq_error {e : StoreError} (h : s.fetchPage spec b = .error e) :
    s.readRows { spec with limit := s.pageLimit spec } b = .error e := by
  rw [fetchPage] at h
  split at h
  · cases h
  · cases hr : s.readRows { spec with limit := s.pageLimit spec } b with
    | error e' =>
        rw [Reading.bind_of_error hr] at h
        cases h
        rfl
    | ok entities =>
        rw [Reading.bind_of_ok hr] at h
        cases h

lemma fetchPage_eq_none (h : s.fetchPage spec b = .ok none) : spec.limit = 0 := by
  by_contra hne
  rw [fetchPage, if_neg hne] at h
  obtain ⟨entities, -, h⟩ := Reading.bind_eq_ok.mp h
  cases h

/-- The entities of a page, and the query for those behind it. -/
lemma fetchPage_eq_some {page : Page α spec} (h : s.fetchPage spec b = .ok (some page)) :
    s.readRows { spec with limit := s.pageLimit spec } b = .ok page.entities ∧
      page.rest =
        if page.entities.length = (s.pageLimit spec).toNat ∧ s.pageLimit spec < spec.limit then
          some (spec.behind (s.pageLimit spec))
        else none := by
  rw [fetchPage] at h
  split at h
  · cases h
  · obtain ⟨entities, hr, h⟩ := Reading.bind_eq_ok.mp h
    cases h
    exact ⟨hr, rfl⟩

/-- A page with more behind it is full, and smaller than the query. -/
lemma length_of_rest {page : Page α spec} {rest : QuerySpec}
    (h : s.fetchPage spec b = .ok (some page)) (hrest : page.rest = some rest) :
    page.entities.length = (s.pageLimit spec).toNat ∧ s.pageLimit spec < spec.limit := by
  have hif := (fetchPage_eq_some h).2
  rw [hrest] at hif
  split at hif
  · next hfull => exact hfull
  · cases hif

/-! ### All pages -/

/-- Do the queries for parts of an answer answer the entities of parts of some rows? -/
def Reads (s : EntityStore α) (spec : QuerySpec) (b : Backend) (rows : List Row) : Prop :=
  ∀ offset limit : UInt32, s.readRows { spec with offset := offset, limit := limit } b =
    ((rows.drop offset.toNat).take limit.toNat).mapM Entity.ofRow

lemma take_pages {β : Type} (n : Nat) {limit : Nat} (hn : n ≤ limit) (rows : List β) :
    rows.take limit = rows.take n ++ (rows.drop n).take (limit - n) := by
  rw [← List.take_add, Nat.add_sub_cancel' hn]

namespace Reads

variable {page : Page α spec}

lemma mapM_page (h : s.Reads spec b rows) (hpage : s.fetchPage spec b = .ok (some page)) :
    ((rows.drop spec.offset.toNat).take (s.pageLimit spec).toNat).mapM Entity.ofRow =
      .ok page.entities :=
  (h spec.offset (s.pageLimit spec)).symm.trans (fetchPage_eq_some hpage).1

/-- A page with nothing left behind it has all rows. -/
lemma take_pageLimit (h : s.Reads spec b rows) (hpage : s.fetchPage spec b = .ok (some page))
    (hrest : page.rest = none) :
    (rows.drop spec.offset.toNat).take (s.pageLimit spec).toNat =
      (rows.drop spec.offset.toNat).take spec.limit.toNat := by
  have hle := UInt32.le_iff_toNat_le.mp (s.pageLimit_le spec)
  have hlength := Except.length_of_mapM (h.mapM_page hpage)
  have hif := (fetchPage_eq_some hpage).2
  rw [hrest] at hif
  -- either the page is as large as the query, or the rows end in it
  by_cases hfull : s.pageLimit spec < spec.limit
  · have hshort : page.entities.length ≠ (s.pageLimit spec).toNat := by
      intro hfits
      rw [if_pos ⟨hfits, hfull⟩] at hif
      cases hif
    rw [List.length_take] at hlength
    rw [List.take_of_length_le (by omega), List.take_of_length_le (by omega)]
  · rw [UInt32.le_antisymm (UInt32.not_lt.mp hfull) (s.pageLimit_le spec)]

/-- What is left behind a page starts where the page ends, if it can be counted there. -/
lemma behind_pageLimit (h : s.Reads spec b rows)
    (hroom : spec.offset.toNat + spec.limit.toNat < UInt32.size ∨ rows.length < UInt32.size)
    (hpage : s.fetchPage spec b = .ok (some page)) {rest : QuerySpec}
    (hrest : page.rest = some rest) :
    rest = spec.behind (s.pageLimit spec) ∧
      rest.offset.toNat = spec.offset.toNat + (s.pageLimit spec).toNat ∧
      rest.limit.toNat = spec.limit.toNat - (s.pageLimit spec).toNat := by
  have hlength := Except.length_of_mapM (h.mapM_page hpage)
  obtain ⟨hfull, hlt⟩ := length_of_rest hpage hrest
  have hpos := pageLimit_pos hlt
  have hle := UInt32.le_iff_toNat_le.mp (s.pageLimit_le spec)
  have hend : spec.offset.toNat + (s.pageLimit spec).toNat < UInt32.size := by
    rw [List.length_take, List.length_drop, hfull] at hlength
    omega
  have hif := (fetchPage_eq_some hpage).2
  rw [hrest, if_pos ⟨hfull, hlt⟩] at hif
  cases hif
  exact ⟨rfl, QuerySpec.toNat_behind (s.pageLimit_le spec) hend⟩

end Reads

/-- All pages of a query together are what a single query answers, if its offset and its limit
together can be counted, or the rows can. -/
theorem readPages_eq (h : s.Reads spec b rows)
    (hroom : spec.offset.toNat + spec.limit.toNat < UInt32.size ∨ rows.length < UInt32.size) :
    s.readPages spec b =
      ((rows.drop spec.offset.toNat).take spec.limit.toNat).mapM Entity.ofRow := by
  fun_induction readPages s spec b with
  | case1 spec e hpage =>
      have hle := UInt32.le_iff_toNat_le.mp (s.pageLimit_le spec)
      have hfirst := (h spec.offset (s.pageLimit spec)).symm.trans (fetchPage_eq_error hpage)
      rw [take_pages _ hle, List.mapM_append, hfirst]
      rfl
  | case2 spec hpage =>
      rw [fetchPage_eq_none hpage]
      rfl
  | case3 spec page hpage hrest => rw [← h.take_pageLimit hpage hrest, h.mapM_page hpage]
  | case4 spec page hpage rest hrest ih =>
      have hle := UInt32.le_iff_toNat_le.mp (s.pageLimit_le spec)
      obtain ⟨rfl, hoffset, hlimit⟩ := h.behind_pageLimit hroom hpage hrest
      have hnext := ih (fun offset limit => h offset limit) (by rw [hoffset, hlimit]; omega)
      rw [hoffset, hlimit, ← List.drop_drop] at hnext
      rw [take_pages _ hle, List.mapM_append, h.mapM_page hpage, hnext]
      rfl

end EntityStore

end LeasedStore
