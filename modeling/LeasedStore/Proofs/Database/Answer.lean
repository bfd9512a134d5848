/-
The answer of a query whose conditions can all be evaluated.

A condition that fixes a column decides the others on that column: where it holds, the column has
the value at which it is fixed, and the others hold just if they hold of that value.  So a query
answers the rows on which all its conditions hold, although it does not look at all of them.

* `Select.IsEvaluated`: do all conditions of a query come to a result on a row?
* `Condition.level_of_fixed`, `datum_of_fixed`: what a column holds where it is fixed;
* `Select.IsSettled`: are the columns that likeness is about free of real numbers?
* `Select.holds_of_undecided`: the conditions that were not looked at hold as well;
* `Select.isRefuted_eq_false`: nothing is refuted where all conditions hold;
* `Select.all_conditions_iff`: the conditions that are looked at hold if all of them do;
* `Select.Bound.isMatch_iff_holds`: the rows that match are those on which all conditions hold;
* `Select.Bound.found`, `rowsOf_eq_found`: the rows that match, where looking at a row never fails;
* `Select.Bound.rowsOf_eq`: the same where all conditions can be evaluated.
-/
import LeasedStore.Proofs.Database.Level

namespace LeasedStore

/-! ### What is fixed -/

namespace Condition

variable {leases leases' : LeaseTable} {params : List Param} {r r' : Row} {c f : Condition}
  {column : String} {place : Placeholder}

/-- A condition on a single column depends on nothing else. -/
lemma holds_congr (hc : c.column? = some column)
    (h : Datum.ofCell (r.cell column) = .ofCell (r'.cell column)) :
    c.holds leases params r = c.holds leases' params r' := by
  obtain ⟨op, p, rfl⟩ | ⟨ps, rfl⟩ := column?_eq_some hc
  · rw [holds, holds, Expr.datum, Expr.datum, h]
  · rw [holds, holds, Expr.datum, Expr.datum, h]

lemma exists_holds_of_column? (h : c.column? = some column) (leases : LeaseTable)
    (params : List Param) (r : Row) : ∃ held, c.holds leases params r = .ok held := by
  obtain ⟨op, p, rfl⟩ | ⟨ps, rfl⟩ := column?_eq_some h
  · exact ⟨_, rfl⟩
  · exact ⟨_, rfl⟩

/-- A condition that fixes a column says that it equals a value, or that it is one of a single
one. -/
lemma fixedAt?_eq_some (h : c.fixedAt? = some place) :
    ∃ column, c = .compare (.column column) .equal place ∨ c = .oneOf (.column column) [place] := by
  cases c with
  | compare e op p =>
      cases e with
      | column name =>
          cases op <;> cases h
          exact ⟨name, .inl rfl⟩
      | pathText name path => cases h
      | keysText name keys => cases h
  | oneOf e ps =>
      cases e with
      | column name =>
          match ps, h with
          | [p], rfl => exact ⟨name, .inr rfl⟩
      | pathText name path => cases h
      | keysText name keys => cases h
  | never => cases h
  | unleased idExpr kind now => cases h

/-- Where a condition holds that fixes a column, the column equals the value at which it is
fixed. -/
lemma equal_of_fixed (hf : f.column? = some column) (hp : f.fixedAt? = some place)
    (h : f.holds leases params r = .ok true) :
    Comparison.equal.holds (.ofCell (r.cell column)) (place.datum params) = true := by
  obtain ⟨name, rfl | rfl⟩ := fixedAt?_eq_some hp
  · cases hf
    exact Except.ok.inj h
  · cases hf
    simpa using Except.ok.inj h

/-- Where a condition holds that fixes a column, the column is level with the value at which it is
fixed. -/
lemma level_of_fixed (hf : f.column? = some column) (hp : f.fixedAt? = some place)
    (h : f.holds leases params r = .ok true) :
    (Datum.ofCell (r.cell column)).order (place.datum params) = .eq := by
  have hequal := equal_of_fixed hf hp h
  simp only [Comparison.holds, Bool.and_eq_true, decide_eq_true_eq] at hequal
  exact hequal.2

lemma datum_of_fixed (hf : f.column? = some column) (hp : f.fixedAt? = some place)
    (hr : (Datum.ofCell (r.cell column)).IsPlain) (h : f.holds leases params r = .ok true) :
    Datum.ofCell (r.cell column) = place.datum params :=
  Datum.eq_of_order hr (place.isPlain_datum params) (level_of_fixed hf hp h)

end Condition

/-! ### Conditions that are looked at, and the others -/

/-- Do all conditions of a query come to a result on a row, and are the columns that they are about
free of real numbers? -/
structure Select.IsEvaluated (q : Select) (leases : LeaseTable) (params : List Param) (r : Row)
    (p : Condition → Bool) : Prop where
  holds : ∀ c ∈ q.conditions, c.holds leases params r = .ok (p c)
  isPlain : ∀ c ∈ q.conditions, ∀ column, c.column? = some column →
    (Datum.ofCell (r.cell column)).IsPlain

namespace Select

variable {q : Select} {leases : LeaseTable} {params : List Param} {r : Row} {c f : Condition}
  {p : Condition → Bool}

/-- A condition that decides another one is about the same column, fixes it and is decided by
none. -/
lemma deciding?_eq_some (h : q.deciding? c = some f) :
    f ∈ q.undecided ∧ ∃ column place, c.column? = some column ∧ f.column? = some column ∧
      f.fixedAt? = some place := by
  obtain ⟨hf, -⟩ := Option.filter_eq_some_iff.mp h
  obtain ⟨column, hc, hf⟩ := Option.bind_eq_some_iff.mp hf
  have hmem : f ∈ q.conditions := List.mem_reverse.mp (List.mem_of_find?_eq_some hf)
  have hfixes := List.find?_some hf
  simp only [Bool.and_eq_true, decide_eq_true_eq] at hfixes
  obtain ⟨place, hplace⟩ := Option.isSome_iff_exists.mp hfixes.2
  refine ⟨List.mem_filter.mpr ⟨hmem, ?_⟩, column, place, hc, hfixes.1, hplace⟩
  rw [deciding?, hfixes.1, Option.bind_some, hf, Option.filter_some, if_neg (by simp)]
  rfl

/-- Are the columns free of real numbers that a condition fixes and another one compares by
likeness?  Nothing but likeness can tell a real number from what is level with it. -/
def IsSettled (q : Select) (leases : LeaseTable) (params : List Param) (r : Row) : Prop :=
  ∀ c ∈ q.conditions, c.isLikeness = true → ∀ f, q.deciding? c = some f →
    f.holds leases params r = .ok true →
      ∀ column, f.column? = some column → (Datum.ofCell (r.cell column)).IsPlain

/-- Where the condition holds that decides another one, the other one fails if it does not hold. -/
lemma isFailed_of_deciding {held : Bool} (hf : q.deciding? c = some f)
    (hplain : c.isLikeness = true →
      ∀ column, f.column? = some column → (Datum.ofCell (r.cell column)).IsPlain)
    (hfixes : f.holds leases params r = .ok true) (hholds : c.holds leases params r = .ok held) :
    q.isFailed params c = !held := by
  obtain ⟨hmem, column, place, hcolumn, hfcolumn, hplace⟩ := deciding?_eq_some hf
  have hfixed : Datum.ofCell ((⟨[(column, place.cell params)]⟩ : Row).cell column) =
      place.datum params := by
    simp [Row.cell, Placeholder.datum]
  have hsame : c.holds .empty params ⟨[(column, place.cell params)]⟩ = .ok held := by
    rw [← hholds]
    -- a likeness minds how a value is written, so its column has to hold the very same one
    cases hlike : c.isLikeness with
    | true =>
        have hdatum := Condition.datum_of_fixed hfcolumn hplace
          (hplain hlike column hfcolumn) hfixes
        exact Condition.holds_congr hcolumn (hfixed.trans hdatum.symm)
    | false =>
        have hlevel := Condition.level_of_fixed hfcolumn hplace hfixes
        rw [← hfixed] at hlevel
        refine (Condition.holds_of_level hcolumn hlike ?_ hlevel).symm
        rw [hfixed]
        exact place.isPlain_datum params
  rw [isFailed, hcolumn, hf, Option.bind_some, hplace]
  simp only [hsame]

/-- Where nothing is refuted and the conditions hold that are looked at, all of them hold. -/
lemma holds_of_undecided (hrefuted : q.isRefuted params = false)
    (hundecided : ∀ c ∈ q.undecided, c.holds leases params r = .ok true)
    (hsettled : q.IsSettled leases params r) :
    ∀ c ∈ q.conditions, c.holds leases params r = .ok true := by
  intro c hc
  cases hf : q.deciding? c with
  | none => exact hundecided c (List.mem_filter.mpr ⟨hc, by rw [hf]; rfl⟩)
  | some f =>
      obtain ⟨hmem, column, place, hcolumn, hfcolumn, hplace⟩ := deciding?_eq_some hf
      have hheld := hundecided f hmem
      obtain ⟨held, hresult⟩ := Condition.exists_holds_of_column? hcolumn leases params r
      have hfailed : q.isFailed params c = !held :=
        isFailed_of_deciding hf (fun hlike => hsettled c hc hlike f hf hheld) hheld hresult
      have hnot : q.isFailed params c = false :=
        (Bool.or_eq_false_iff.mp (Bool.eq_false_iff.mpr (List.any_eq_false.mp hrefuted c hc))).2
      rw [hfailed, Bool.not_eq_false'] at hnot
      rw [hresult, hnot]

/-- Nothing is refuted where all conditions hold. -/
lemma isRefuted_eq_false (hall : ∀ c ∈ q.conditions, c.holds leases params r = .ok true)
    (hsettled : q.IsSettled leases params r) : q.isRefuted params = false := by
  refine List.any_eq_false.mpr fun c hc => ?_
  have hnever : c ≠ .never := by
    rintro rfl
    cases hall _ hc
  have hfailed : q.isFailed params c = false := by
    cases hf : q.deciding? c with
    | none =>
        rw [isFailed, hf]
        cases c.column? <;> rfl
    | some f =>
        obtain ⟨hmem, -⟩ := deciding?_eq_some hf
        have hheld := hall f (List.mem_filter.mp hmem).1
        exact isFailed_of_deciding hf (fun hlike => hsettled c hc hlike f hf hheld)
          hheld (hall c hc)
  simp [hnever, hfailed]

/-- The conditions that are looked at hold, and nothing is refuted, if all conditions hold. -/
lemma all_conditions_iff (h : q.IsEvaluated leases params r p) :
    q.conditions.all p = true ↔ q.isRefuted params = false ∧ q.undecided.all p = true := by
  have hsettled : q.IsSettled leases params r := fun c _ _ f hf _ column hcolumn =>
    h.isPlain f (List.mem_filter.mp (deciding?_eq_some hf).1).1 column hcolumn
  simp only [List.all_eq_true]
  constructor
  · intro hall
    have hheld : ∀ c ∈ q.conditions, c.holds leases params r = .ok true := fun c hc => by
      rw [h.holds c hc, hall c hc]
    exact ⟨isRefuted_eq_false hheld hsettled, fun c hc => hall c (List.mem_filter.mp hc).1⟩
  · rintro ⟨hrefuted, hall⟩ c hc
    have hundecided : ∀ c ∈ q.undecided, c.holds leases params r = .ok true := fun c hc => by
      rw [h.holds c (List.mem_filter.mp hc).1, hall c hc]
    have hheld := holds_of_undecided hrefuted hundecided hsettled c hc
    rw [h.holds c hc] at hheld
    exact Except.ok.inj hheld

end Select

/-! ### Rows -/

namespace Select.Bound

variable {b : Bound} {leases : LeaseTable} {t : Table} {p : Condition → Row → Bool}

/-- Whether a row matches is said by the conditions that are looked at. -/
lemma isMatch_eq {r : Row} (hshort : b.HasShortPatterns)
    (h : b.query.IsEvaluated leases b.params r (p · r)) :
    b.isMatch leases t.definition r = .ok (b.query.undecided.all (p · r)) := by
  have hscanned : ∀ c ∈ b.query.scanned t.definition.key,
      c.holds leases b.params r = .ok (p c r) := fun c hc =>
    h.holds c (mem_conditions_of_scanned hc)
  have hall : (b.query.scanned t.definition.key).all (p · r) = b.query.undecided.all (p · r) := by
    rw [Bool.eq_iff_iff, List.all_eq_true, List.all_eq_true]
    simp only [mem_scanned_iff]
  rw [isMatch, Condition.allHold_eq_all hscanned
    fun c hc => hshort c (mem_conditions_of_scanned hc), hall]

lemma holds_of_candidate {r : Row} (h : b.query.IsSettled leases b.params r)
    (hcandidate : r ∈ b.candidates t) (hmatch : b.isMatch leases t.definition r = .ok true) :
    ∀ c ∈ b.query.conditions, c.holds leases b.params r = .ok true :=
  holds_of_undecided (isRefuted_of_mem_candidates hcandidate) (holds_of_isMatch hmatch) h

/-- The rows that can match and do are those on which all conditions hold. -/
theorem isMatch_iff_holds {r : Row} (hshort : b.HasShortPatterns) (hr : r ∈ t.rows)
    (h : b.query.IsSettled leases b.params r) :
    (r ∈ b.candidates t ∧ b.isMatch leases t.definition r = .ok true) ↔
      ∀ c ∈ b.query.conditions, c.holds leases b.params r = .ok true := by
  refine ⟨fun ⟨hcandidate, hmatch⟩ => holds_of_candidate h hcandidate hmatch, fun hheld => ?_⟩
  have hrefuted := isRefuted_eq_false hheld h
  have hscanned : ∀ c ∈ b.query.scanned t.definition.key, c.holds leases b.params r = .ok true :=
    fun c hc => hheld c (mem_conditions_of_scanned hc)
  refine ⟨by rwa [candidates, if_neg (by simp [hrefuted])], ?_⟩
  rw [isMatch, Condition.allHold_eq_all (p := fun _ => true) hscanned
    fun c hc => hshort c (mem_conditions_of_scanned hc)]
  simp

/-- The rows that can match and do, where it is known which they are. -/
lemma filter_isMatch {p : Row → Bool}
    (h : ∀ r ∈ t.rows, (r ∈ b.candidates t ∧ b.isMatch leases t.definition r = .ok true) ↔
      p r = true) :
    ((b.candidates t).filter fun r => (b.isMatch leases t.definition r).toOption.getD false) =
      t.rows.filter p := by
  by_cases hrefuted : b.query.isRefuted b.params = true
  · have hnone : b.candidates t = [] := by rw [candidates, if_pos hrefuted]
    rw [hnone]
    refine (List.filter_eq_nil_iff.mpr fun r hr hp => ?_).symm
    have hcandidate := ((h r hr).mpr hp).1
    rw [hnone] at hcandidate
    cases hcandidate
  · have hall : b.candidates t = t.rows := by rw [candidates, if_neg hrefuted]
    rw [hall]
    refine List.filter_congr fun r hr => ?_
    rw [Bool.eq_iff_iff, Except.getD_toOption_eq_true, ← h r hr, hall]
    exact (and_iff_right hr).symm

/-- The rows that can match and meet the conditions that are looked at are those of the table that
meet all conditions. -/
lemma filter_candidates (h : ∀ r ∈ t.rows, b.query.IsEvaluated leases b.params r (p · r)) :
    (b.candidates t).filter (fun r => b.query.undecided.all (p · r)) =
      t.rows.filter fun r => b.query.conditions.all (p · r) := by
  rw [candidates]
  split
  · next hrefuted =>
    refine (List.filter_eq_nil_iff.mpr fun r hr hall => ?_).symm
    rw [((all_conditions_iff (h r hr)).mp hall).1] at hrefuted
    cases hrefuted
  · next hrefuted =>
    refine List.filter_congr fun r hr => ?_
    rw [Bool.eq_iff_iff, all_conditions_iff (h r hr)]
    simp [hrefuted]

lemma mem_of_mem_candidates {r : Row} (h : r ∈ b.candidates t) : r ∈ t.rows := by
  rw [candidates] at h
  split at h
  · cases h
  · exact h

lemma length_candidates_le : (b.candidates t).length ≤ t.rows.length := by
  rw [candidates]
  split
  · exact Nat.zero_le _
  · exact Nat.le_refl _

/-- The rows that a query answers where looking at a row never fails: those that match, from the
offset up to the limit.  Rows that come in the order of their keys are sorted before they are looked
at. -/
lemma rowsOf_of_isMatch {f : Row → Bool} {limit : Nat}
    (h : ∀ r ∈ b.candidates t, b.isMatch leases t.definition r = .ok (f r))
    (hlimit : ∀ n, b.number b.query.limit n = limit) :
    b.rowsOf leases t = .ok (((if b.query.isInKeyOrder t.definition.key then
      (sortRows b.query.order (b.candidates t)).filter f
        else sortRows b.query.order ((b.candidates t).filter f)).drop
          (b.number b.query.offset 0)).take limit) := by
  rw [rowsOf, hlimit]
  split
  · have hsorted : ∀ r ∈ sortRows b.query.order (b.candidates t),
        b.isMatch leases t.definition r = .ok (f r) := fun r hr =>
      h r ((sortRows_perm _ _).mem_iff.mp hr)
    rw [takeMatching_eq_filter hsorted]
    change Except.ok _ = _
    rw [List.drop_take, Nat.add_sub_cancel_left]
  · rw [takeMatching_eq_filter h, List.take_of_length_le (List.length_filter_le ..)]
    rfl

/-- The rows that match a query, in its order, whatever its offset and limit are. -/
def found (b : Bound) (leases : LeaseTable) (t : Table) : List Row :=
  let isHit (r : Row) : Bool := (b.isMatch leases t.definition r).toOption.getD false
  if b.query.isInKeyOrder t.definition.key then
    (sortRows b.query.order (b.candidates t)).filter isHit
  else sortRows b.query.order ((b.candidates t).filter isHit)

/-- The rows that are found are those that can match and do. -/
lemma mem_found {r : Row} : r ∈ b.found leases t ↔
    r ∈ b.candidates t ∧ b.isMatch leases t.definition r = .ok true := by
  rw [found]
  split
  · rw [List.mem_filter, (sortRows_perm _ _).mem_iff, Except.getD_toOption_eq_true]
  · rw [(sortRows_perm _ _).mem_iff, List.mem_filter, Except.getD_toOption_eq_true]

/-- No more rows are found than there are. -/
lemma length_found_le : (b.found leases t).length ≤ t.rows.length := by
  rw [found]
  split
  · refine Nat.le_trans (List.length_filter_le ..) ?_
    rw [(sortRows_perm _ _).length_eq]
    exact length_candidates_le
  · rw [(sortRows_perm _ _).length_eq]
    exact Nat.le_trans (List.length_filter_le ..) length_candidates_le

/-- Where looking at a row never fails, a query answers what is found, from the offset up to the
limit. -/
lemma rowsOf_eq_found {limit : Nat}
    (h : ∀ r ∈ b.candidates t, ∃ held, b.isMatch leases t.definition r = .ok held)
    (hlimit : ∀ n, b.number b.query.limit n = limit) :
    b.rowsOf leases t =
      .ok (((b.found leases t).drop (b.number b.query.offset 0)).take limit) := by
  refine rowsOf_of_isMatch (fun r hr => ?_) hlimit
  obtain ⟨held, hheld⟩ := h r hr
  rw [hheld]
  rfl

/-- The rows that a query answers: those that meet all conditions, in their order, from the offset
up to the limit.  Rows that come in the order of their keys are sorted before they are looked at, so
that sorting must not mind it. -/
theorem rowsOf_eq {limit : Nat} (hshort : b.HasShortPatterns)
    (h : ∀ r ∈ t.rows, b.query.IsEvaluated leases b.params r (p · r))
    (hlimit : ∀ n, b.number b.query.limit n = limit)
    (hsort : ∀ f : Row → Bool, b.query.isInKeyOrder t.definition.key = true →
      (sortRows b.query.order t.rows).filter f = sortRows b.query.order (t.rows.filter f)) :
    b.rowsOf leases t = .ok (((sortRows b.query.order
      (t.rows.filter fun r => b.query.conditions.all (p · r))).drop
        (b.number b.query.offset 0)).take limit) := by
  have hmatch : ∀ r ∈ b.candidates t,
      b.isMatch leases t.definition r = .ok (b.query.undecided.all (p · r)) := fun r hr =>
    isMatch_eq hshort (h r (mem_of_mem_candidates hr))
  -- rows that come in the order of their keys are sorted before they are picked
  rw [rowsOf_of_isMatch hmatch hlimit, filter_candidates h]
  split
  · next hkey =>
    have hfilter : (sortRows b.query.order (b.candidates t)).filter
        (fun r => b.query.undecided.all (p · r)) =
        sortRows b.query.order (t.rows.filter fun r => b.query.conditions.all (p · r)) := by
      rw [← filter_candidates h, candidates]
      split
      · simp [sortRows]
      · exact hsort _ hkey
    rw [hfilter]
  · rfl

end Select.Bound

end LeasedStore
