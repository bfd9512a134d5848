/-
What a query answers, whatever way its conditions are gone through.

* `takeMatching_eq_filter`, `mem_takeMatching`: the rows that are taken are those that match;
* `Select.mem_scanned_iff`: the conditions that are looked at are those that no other one decides;
* `Select.mem_undecided_of_last`, `mem_undecided_of_column?_none`: conditions that none decides;
* `Database.exists_match_of_select`, `fits_of_select`: every row that a query answers comes from one
  of the table that matches, and the query is within the limits;
* `Database.count_eq_filter`: as many rows are counted as match.
-/
import Mathlib.Tactic.Common
import LeasedStore.Proofs.Backend
import LeasedStore.Proofs.Database.Limits
import LeasedStore.Proofs.Text.Bytes

namespace LeasedStore

/-! ### What is compared -/

/-- Nothing but a text equals one. -/
lemma Comparison.equal_holds_codes {d : Datum} {t : String} :
    Comparison.equal.holds d (.ofCell (.text t)) = true ↔ d = .text (Text.codes t.toList) := by
  cases d with
  | text s =>
      rw [Datum.text.injEq, ← Std.LawfulEqOrd.compare_eq_iff_eq (α := List Nat)]
      simp [holds, Datum.ofCell, Datum.order]
  | null => exact iff_of_false nofun nofun
  | int n => exact iff_of_false nofun nofun
  | real x => exact iff_of_false nofun nofun

/-- No other cell equals a text. -/
lemma Comparison.eq_of_equal_holds_text {c : Cell} {s : String}
    (h : Comparison.equal.holds (.ofCell c) (.ofCell (.text s)) = true) : c = .text s := by
  have hcodes := equal_holds_codes.mp h
  cases c with
  | text t =>
      have hlist := Text.codes_injective (Datum.text.inj hcodes)
      rw [String.toList_inj.mp hlist]
  | null => cases hcodes
  | int n => cases hcodes
  | real x => cases hcodes

lemma Comparison.equal_holds_text {s t : String} :
    Comparison.equal.holds (.ofCell (.text s)) (.ofCell (.text t)) = true ↔ s = t :=
  ⟨fun h => Cell.text.inj (eq_of_equal_holds_text h), fun h => equal_holds_codes.mpr (h ▸ rfl)⟩

/-! ### Rows one after the other -/

section TakeMatching

variable {ε : Type} {isMatch : Row → Except ε Bool} {rows found : List Row} {r : Row} {n : Nat}

/-- Where the test never fails, the rows that match are taken, up to the limit. -/
lemma takeMatching_eq_filter {p : Row → Bool} (h : ∀ r ∈ rows, isMatch r = .ok (p r)) (n : Nat) :
    takeMatching isMatch n rows = .ok ((rows.filter p).take n) := by
  induction rows generalizing n with
  | nil => simp [takeMatching]
  | cons r rest ih =>
      have hr : isMatch r = .ok (p r) := h r (List.mem_cons_self ..)
      have hrest : ∀ x ∈ rest, isMatch x = .ok (p x) := fun x hx => h x (List.mem_cons_of_mem _ hx)
      cases n with
      | zero => simp [takeMatching]
      | succ n =>
          rw [takeMatching, hr, ih hrest, ih hrest]
          cases hp : p r with
          | true =>
              rw [List.filter_cons_of_pos hp, List.take_succ_cons]
              rfl
          | false =>
              rw [List.filter_cons_of_neg (by simp [hp])]
              rfl

/-- A row that is taken is there and matches. -/
lemma mem_takeMatching (h : takeMatching isMatch n rows = .ok found) (hr : r ∈ found) :
    r ∈ rows ∧ isMatch r = .ok true := by
  induction rows generalizing n found with
  | nil =>
      rw [takeMatching] at h
      cases h
      cases hr
  | cons x rest ih =>
      cases n with
      | zero =>
          rw [takeMatching] at h
          · cases h
            cases hr
          · simp
      | succ n =>
          rw [takeMatching] at h
          obtain ⟨matched, hx, h⟩ := Except.bind_eq_ok.mp h
          cases matched with
          | true =>
              obtain ⟨more, hmore, h⟩ := Except.bind_eq_ok.mp h
              cases h
              rcases List.mem_cons.mp hr with rfl | hr
              · exact ⟨List.mem_cons_self .., hx⟩
              · exact ⟨List.mem_cons_of_mem _ (ih hmore hr).1, (ih hmore hr).2⟩
          | false => exact ⟨List.mem_cons_of_mem _ (ih h hr).1, (ih h hr).2⟩

end TakeMatching

lemma sortRows_perm (order : List (String × SortOrder)) (rows : List Row) :
    (sortRows order rows).Perm rows :=
  List.mergeSort_perm ..

/-! ### Conditions one after the other -/

namespace Condition

variable {leases : LeaseTable} {params : List Param} {r : Row} {conditions : List Condition}

/-- Where no condition fails to be evaluated and no pattern is too long, all conditions are looked
at together. -/
lemma allHold_eq_all {p : Condition → Bool}
    (h : ∀ c ∈ conditions, c.holds leases params r = .ok (p c))
    (hshort : ∀ c ∈ conditions, c.isOverlong params = false) :
    allHold leases params r conditions = .ok (conditions.all p) := by
  induction conditions with
  | nil => rfl
  | cons c rest ih =>
      obtain ⟨hc, hrest⟩ := List.forall_mem_cons.mp h
      obtain ⟨hcshort, hshort⟩ := List.forall_mem_cons.mp hshort
      rw [allHold, test_of_short hcshort, hc, ih hrest hshort]
      cases hp : p c <;> simp [hp, bind, Except.bind, pure, Except.pure]

/-- Conditions that all hold hold one by one, and their patterns are short enough. -/
lemma holds_of_allHold (h : allHold leases params r conditions = .ok true) :
    ∀ c ∈ conditions, c.holds leases params r = .ok true ∧ c.isOverlong params = false := by
  induction conditions with
  | nil => exact fun c hc => by cases hc
  | cons c rest ih =>
      obtain ⟨held, hc, h⟩ := Except.bind_eq_ok.mp h
      cases held with
      | false => cases h
      | true =>
          intro x hx
          rcases List.mem_cons.mp hx with rfl | hx
          · exact test_eq_ok.mp hc
          · exact ih h x hx

end Condition

namespace Select

variable {q : Select} {c : Condition} {key : String}

/-- The conditions that are looked at are those that no other one decides. -/
lemma mem_scanned_iff : c ∈ q.scanned key ↔ c ∈ q.undecided := by
  rw [scanned]
  split
  · simp only [List.mem_append, List.mem_filter, Bool.not_eq_true', ← and_or_left]
    exact and_iff_left (by cases c.isOnKey key <;> simp)
  · rfl

lemma mem_conditions_of_scanned (h : c ∈ q.scanned key) : c ∈ q.conditions :=
  (List.mem_filter.mp (mem_scanned_iff.mp h)).1

lemma mem_undecided_of_column?_none (hc : c ∈ q.conditions) (hn : c.column? = none) :
    c ∈ q.undecided := by
  refine List.mem_filter.mpr ⟨hc, ?_⟩
  rw [deciding?, hn]
  rfl

/-- The last condition is decided by none if it fixes its column. -/
lemma mem_undecided_of_last {conditions : List Condition} {column : String}
    (hq : q.conditions = conditions ++ [c]) (hc : c.column? = some column)
    (hf : c.fixedAt?.isSome = true) : c ∈ q.undecided := by
  have hfix : q.fixing? column = some c := by
    rw [fixing?, hq, List.reverse_append, List.reverse_singleton, List.singleton_append,
      List.find?_cons_of_pos (by simp [hc, hf])]
  have hmem : c ∈ q.conditions := by
    rw [hq]
    exact List.mem_append_right _ (List.mem_singleton_self c)
  refine List.mem_filter.mpr ⟨hmem, ?_⟩
  rw [deciding?, hc, Option.bind_some, hfix]
  simp

end Select

/-! ### The rows of a query -/

variable {b : Select.Bound} {leases : LeaseTable} {t : Table} {rows : List Row} {r : Row}

/-- Rows that a query answers are among those that can match, and do. -/
lemma Select.Bound.isMatch_of_mem_rowsOf (h : b.rowsOf leases t = .ok rows) (hr : r ∈ rows) :
    r ∈ b.candidates t ∧ b.isMatch leases t.definition r = .ok true := by
  rw [rowsOf] at h
  split at h
  · obtain ⟨found, hf, h⟩ := Except.bind_eq_ok.mp h
    cases h
    obtain ⟨hmem, hm⟩ := mem_takeMatching hf (List.mem_of_mem_drop hr)
    exact ⟨(sortRows_perm _ _).mem_iff.mp hmem, hm⟩
  · obtain ⟨found, hf, h⟩ := Except.bind_eq_ok.mp h
    cases h
    have hmem := List.mem_of_mem_drop (List.mem_of_mem_take hr)
    exact mem_takeMatching hf ((sortRows_perm _ _).mem_iff.mp hmem)

lemma Select.Bound.holds_of_isMatch {d : TableDef} (h : b.isMatch leases d r = .ok true) :
    ∀ c ∈ b.query.undecided, c.holds leases b.params r = .ok true :=
  fun c hc => (Condition.holds_of_allHold h c (Select.mem_scanned_iff.mpr hc)).1

lemma Select.Bound.isRefuted_of_mem_candidates (h : r ∈ b.candidates t) :
    b.query.isRefuted b.params = false := by
  by_contra hrefuted
  rw [candidates, if_pos (by simpa using hrefuted)] at h
  cases h

/-- Where a row matches, all patterns are short enough: those that no other condition decides were
looked at on the row, and the others before. -/
lemma Select.Bound.short_of_isMatch {d : TableDef}
    (hcheck : b.query.checkDecided b.params b.query.conditions = .ok ())
    (hcandidate : r ∈ b.candidates t) (h : b.isMatch leases d r = .ok true) :
    b.HasShortPatterns := by
  have hrefuted := isRefuted_of_mem_candidates hcandidate
  intro c hc
  cases hd : b.query.deciding? c with
  | none =>
      have hundecided : c ∈ b.query.undecided := List.mem_filter.mpr ⟨hc, by rw [hd]; rfl⟩
      exact (Condition.holds_of_allHold h c (Select.mem_scanned_iff.mpr hundecided)).2
  | some f =>
      refine Select.short_of_checkDecided hcheck (fun c hc => ?_) hc (by rw [hd]; rfl)
      simpa using List.any_eq_false.mp hrefuted c hc

/-- What a query has come to that answers some rows: it is within the limits, its tables are there,
and the rows are found in them. -/
lemma Database.select_eq_ok {db : Database} {names : List String}
    (hp : b.query.projection = .columns names) : db.select b = .ok rows ↔
      ∃ t leases found, b.query.Fits ∧ db.table? b.query.table = some t ∧
        db.leasesOf b.query = .ok leases ∧
        b.query.checkDecided b.params b.query.conditions = .ok () ∧
        b.rowsOf leases t = .ok found ∧ rows = found.map fun r => r.project names := by
  rw [select, Except.bind_eq_ok]
  constructor
  · rintro ⟨⟨t, leases⟩, hprepare, h⟩
    obtain ⟨hfits, ht, hleases⟩ := prepare_eq_ok.mp hprepare
    obtain ⟨_, hcheck, h⟩ := Except.bind_eq_ok.mp h
    obtain ⟨found, hfound, h⟩ := Except.bind_eq_ok.mp h
    rw [hp] at h
    exact ⟨t, leases, found, hfits, ht, hleases, hcheck, hfound, (Except.ok.inj h).symm⟩
  · rintro ⟨t, leases, found, hfits, ht, hleases, hcheck, hfound, rfl⟩
    refine ⟨⟨t, leases⟩, prepare_eq_ok.mpr ⟨hfits, ht, hleases⟩, Except.bind_eq_ok.mpr
      ⟨(), hcheck, Except.bind_eq_ok.mpr ⟨found, hfound, ?_⟩⟩⟩
    rw [hp]
    rfl

/-- Rows that a query answers come from rows of its table that match. -/
theorem Database.exists_match_of_select {db : Database} {names : List String}
    (hp : b.query.projection = .columns names) (h : db.select b = .ok rows) (hr : r ∈ rows) :
    ∃ t leases r', db.table? b.query.table = some t ∧ db.leasesOf b.query = .ok leases ∧
      r = r'.project names ∧ r' ∈ b.candidates t ∧ b.isMatch leases t.definition r' = .ok true := by
  obtain ⟨t, leases, found, -, ht, hl, -, hf, rfl⟩ := (select_eq_ok hp).mp h
  obtain ⟨r', hr', rfl⟩ := List.mem_map.mp hr
  exact ⟨t, leases, r', ht, hl, rfl, Select.Bound.isMatch_of_mem_rowsOf hf hr'⟩

/-- A query that answers a row at all is within the limits. -/
theorem Database.fits_of_select {db : Database} {names : List String}
    (hp : b.query.projection = .columns names) (h : db.select b = .ok rows) (hr : r ∈ rows) :
    b.Fits := by
  obtain ⟨t, leases, found, hfits, -, -, hcheck, hf, rfl⟩ := (select_eq_ok hp).mp h
  obtain ⟨r', hr', -⟩ := List.mem_map.mp hr
  obtain ⟨hcandidate, hmatch⟩ := Select.Bound.isMatch_of_mem_rowsOf hf hr'
  exact ⟨hfits, Select.Bound.short_of_isMatch hcheck hcandidate hmatch⟩

/-- Rows that a query answers come from rows that meet the conditions that were looked at. -/
theorem Database.exists_row_of_select {db : Database} {names : List String}
    (hp : b.query.projection = .columns names) (h : db.select b = .ok rows) (hr : r ∈ rows) :
    ∃ leases r', db.leasesOf b.query = .ok leases ∧ r = r'.project names ∧
      ∀ c ∈ b.query.undecided, c.holds leases b.params r' = .ok true := by
  obtain ⟨t, leases, r', -, hl, hproject, -, hmatch⟩ := exists_match_of_select hp h hr
  exact ⟨leases, r', hl, hproject, Select.Bound.holds_of_isMatch hmatch⟩

/-- A query within the limits answers the rows that it comes to, cut down to its columns. -/
lemma Database.select_of_rowsOf {db : Database} {names : List String}
    (hp : b.query.projection = .columns names) (hfits : b.Fits)
    (ht : db.table? b.query.table = some t) (hl : db.leasesOf b.query = .ok leases)
    (hrows : b.rowsOf leases t = .ok rows) :
    db.select b = .ok (rows.map fun r => r.project names) :=
  (select_eq_ok hp).mpr ⟨t, leases, rows, hfits.toFits, ht, hl,
    Select.checkDecided_of_short hfits.patterns, hrows, rfl⟩

/-- As many rows are counted as match, where the query is within the limits and the test never
fails. -/
lemma Database.count_eq_filter {db : Database} {p : Row → Bool} (hfits : b.Fits)
    (ht : db.table? b.query.table = some t) (hl : db.leasesOf b.query = .ok leases)
    (h : ∀ r ∈ b.candidates t, b.isMatch leases t.definition r = .ok (p r)) :
    db.count b = .ok ((b.candidates t).filter p).length := by
  refine Except.bind_eq_ok.mpr ⟨(t, leases), prepare_eq_ok.mpr ⟨hfits.toFits, ht, hl⟩,
    Except.bind_eq_ok.mpr ⟨(), Select.checkDecided_of_short hfits.patterns,
      Except.bind_eq_ok.mpr ⟨_, takeMatching_eq_filter h _, ?_⟩⟩⟩
  rw [List.take_of_length_le (List.length_filter_le ..)]
  rfl

/-- A row cut down to some columns has their contents. -/
lemma Row.cell_project {names : List String} {name : String} (h : name ∈ names) (r : Row) :
    (r.project names).cell name = r.cell name := by
  suffices hl : (names.map fun c => (c, r.cell c)).lookup name = some (r.cell name) by
    rw [Row.project, Row.cell, hl]
    rfl
  induction names with
  | nil => cases h
  | cons x rest ih =>
      rw [List.map_cons, List.lookup_cons]
      by_cases hx : name = x
      · subst hx
        simp
      · rw [beq_false_of_ne hx]
        exact ih ((List.mem_cons.mp h).resolve_left hx)

end LeasedStore
