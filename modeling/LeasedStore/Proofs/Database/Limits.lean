/-
Statements within the limits of a database, and beyond them.

A statement is read if all of its places and all of its conditions taken together are within the
limits: both only grow while it is read, so that the last of the checks says it all.

* `Select.Fits`, `Select.Bound.Fits`: is a statement within the limits, alone and with its
  parameters?
* `Select.read_eq_ok`, `Database.prepare_eq_ok`: what is within the limits is read;
* `Database.select_of_tooDeep`, `count_of_tooDeep`: what is nested too deeply is refused, whatever
  the tables hold;
* `Condition.test_eq_ok`, `test_of_short`: a condition whose pattern is short enough is looked at as
  if there were no limit;
* `Condition.joined_concat`, `length_lt_joined`: how deeply conditions are nested that are joined.
-/
import Mathlib.Data.List.Induction
import LeasedStore.Database.Search
import LeasedStore.Proofs.Backend
import LeasedStore.Proofs.Database.Table

namespace LeasedStore

/-! ### Nesting -/

namespace Condition

variable {c : Condition} {conditions : List Condition} {params : List Param} {n places : Nat}

/-- How deeply conditions are nested that are joined. -/
def joined (conditions : List Condition) : Nat := conditions.foldl joinedNesting 0

lemma two_le_nesting (c : Condition) : 2 ≤ c.nesting := by
  fun_cases nesting c with
  | case1 e op p =>
      cases e <;> simp only [Expr.nesting] <;> omega
  | case2 e p => exact Nat.le_succ_of_le (Nat.le_max_right ..)
  | case3 e ps hps =>
      cases e <;> simp only [Expr.nesting] <;> omega
  | case4 => exact Nat.le_refl 2
  | case5 => exact Nat.le_add_left 2 5

lemma enclosed_le (c : Condition) : c.enclosed ≤ c.placeholders.length := by
  cases c with
  | compare e op p => simp [enclosed, placeholders]
  | _ => exact Nat.le_refl _

lemma le_joinedNesting (n : Nat) (c : Condition) : n ≤ joinedNesting n c := by
  rw [joinedNesting]
  split <;> omega

lemma le_foldl_joinedNesting (n : Nat) (conditions : List Condition) :
    n ≤ conditions.foldl joinedNesting n := by
  induction conditions generalizing n with
  | nil => exact Nat.le_refl n
  | cons c rest ih => exact Nat.le_trans (le_joinedNesting n c) (ih _)

lemma joined_concat (conditions : List Condition) (c : Condition) :
    joined (conditions ++ [c]) = joinedNesting (joined conditions) c := by
  simp [joined, List.foldl_append]

/-- Every condition is at least one level more. -/
lemma length_lt_joined (h : conditions ≠ []) : conditions.length < joined conditions := by
  induction conditions using List.reverseRecOn with
  | nil => exact absurd rfl h
  | append_singleton conditions c ih =>
      have hc := c.two_le_nesting
      rw [joined_concat, joinedNesting, List.length_append, List.length_singleton]
      by_cases hnil : conditions = []
      · subst hnil
        exact hc
      · have hrest := ih hnil
        rw [if_neg (by omega)]
        omega

/-- Comparisons of columns are a level each, and one more. -/
lemma joined_of_nesting_eq_two (h : ∀ c ∈ conditions, c.nesting = 2) (hne : conditions ≠ []) :
    joined conditions = conditions.length + 1 := by
  induction conditions using List.reverseRecOn with
  | nil => exact absurd rfl hne
  | append_singleton conditions c ih =>
      obtain ⟨hrest, hc⟩ := List.forall_mem_append.mp h
      rw [joined_concat, joinedNesting, hc c (List.mem_singleton_self c), List.length_append,
        List.length_singleton]
      by_cases hnil : conditions = []
      · subst hnil
        rfl
      · have hlength := List.length_pos_iff.mpr hnil
        rw [ih hrest hnil, if_neg (by omega)]
        omega

/-! ### Patterns -/

variable {leases : LeaseTable} {r : Row} {held : Bool}

/-- Where a condition is looked at without a complaint, its pattern is short enough. -/
lemma test_eq_ok : c.test leases params r = .ok held ↔
    c.holds leases params r = .ok held ∧ c.isOverlong params = false := by
  rw [test, Except.bind_eq_ok]
  cases c.isOverlong params with
  | true => simp [throw, throwThe, MonadExceptOf.throw]
  | false => simp [pure, Except.pure]

lemma test_of_short (h : c.isOverlong params = false) :
    c.test leases params r = c.holds leases params r := by
  rw [test, h]
  cases c.holds leases params r <;> rfl

end Condition

/-! ### Statements -/

namespace Select

variable {q : Select} {conditions : List Condition} {places nesting behind : Nat}

/-- Is a statement within the limits that are met before a row is looked at? -/
structure Fits (q : Select) : Prop where
  places : q.placeholders.length ≤ maxPlaces
  nesting : q.nesting + q.innerNesting ≤ maxNesting

/-- Are all patterns of a statement short enough? -/
def Bound.HasShortPatterns (b : Bound) : Prop :=
  ∀ c ∈ b.query.conditions, c.isOverlong b.params = false

instance (b : Bound) : Decidable b.HasShortPatterns :=
  inferInstanceAs (Decidable (∀ c ∈ b.query.conditions, c.isOverlong b.params = false))

/-- Is a statement with its parameters within the limits of a database? -/
structure Bound.Fits (b : Bound) : Prop extends b.query.Fits where
  patterns : b.HasShortPatterns

instance (q : Select) : Decidable q.Fits :=
  decidable_of_iff (q.placeholders.length ≤ maxPlaces ∧ q.nesting + q.innerNesting ≤ maxNesting)
    ⟨fun h => ⟨h.1, h.2⟩, fun h => ⟨h.places, h.nesting⟩⟩

instance (b : Bound) : Decidable b.Fits :=
  decidable_of_iff (b.query.Fits ∧ b.HasShortPatterns)
    ⟨fun h => ⟨h.1, h.2⟩, fun h => ⟨h.toFits, h.patterns⟩⟩

/-- Conditions are read behind others if all of them together are within the limits. -/
lemma readConditions_eq_ok (hp : places ≤ maxPlaces) (hn : nesting ≤ maxNesting) :
    readConditions places nesting conditions = .ok behind ↔
      behind = places + (conditions.flatMap Condition.placeholders).length ∧ behind ≤ maxPlaces ∧
        conditions.foldl joinedNesting nesting ≤ maxNesting := by
  induction conditions generalizing places nesting with
  | nil =>
      rw [readConditions, Except.ok.injEq]
      simp only [List.flatMap_nil, List.length_nil, List.foldl_nil, Nat.add_zero]
      exact ⟨fun h => ⟨h.symm, h ▸ hp, hn⟩, fun h => h.1.symm⟩
  | cons c rest ih =>
      -- what is one too many for the conditions so far is one too many for all of them
      have henclosed := c.enclosed_le
      have hdeeper := Condition.le_foldl_joinedNesting (joinedNesting nesting c) rest
      rw [readConditions, List.flatMap_cons, List.length_append, List.foldl_cons, ← Nat.add_assoc]
      split
      · exact iff_of_false nofun (by omega)
      · split
        · exact iff_of_false nofun (by omega)
        · split
          · exact iff_of_false nofun (by omega)
          · exact ih (by omega) (by omega)

/-- Conditions are too deeply nested whichever of them it is that is one too many. -/
lemma readConditions_of_tooDeep
    (hp : places + (conditions.flatMap Condition.placeholders).length ≤ maxPlaces)
    (hn : nesting ≤ maxNesting) (h : maxNesting < conditions.foldl joinedNesting nesting) :
    readConditions places nesting conditions = .error .tooDeep := by
  induction conditions generalizing places nesting with
  | nil => exact absurd hn (Nat.not_le.mpr h)
  | cons c rest ih =>
      have henclosed := c.enclosed_le
      rw [List.flatMap_cons, List.length_append, ← Nat.add_assoc] at hp
      rw [readConditions, if_neg (by omega)]
      split
      · rfl
      · rw [if_neg (by omega)]
        exact ih hp (by omega) h

/-- What is within the limits is read. -/
lemma read_eq_ok : q.read = .ok () ↔
    q.placeholders.length ≤ maxPlaces ∧ q.nesting ≤ maxNesting := by
  rw [read, Except.bind_eq_ok, placeholders, nesting]
  simp only [readConditions_eq_ok (Nat.zero_le _) (Nat.zero_le _), Nat.zero_add, List.length_append]
  constructor
  · rintro ⟨_, ⟨rfl, -, hn⟩, h⟩
    split at h
    · cases h
    · next hp => exact ⟨Nat.not_lt.mp hp, hn⟩
  · rintro ⟨hp, hn⟩
    refine ⟨_, ⟨rfl, Nat.le_of_add_right_le hp, hn⟩, ?_⟩
    rw [if_neg (Nat.not_lt.mpr hp)]
    rfl

lemma read_of_tooDeep (hp : q.placeholders.length ≤ maxPlaces) (h : maxNesting < q.nesting) :
    q.read = .error .tooDeep := by
  rw [placeholders, List.length_append] at hp
  rw [read, readConditions_of_tooDeep (by omega) (Nat.zero_le _) h]
  rfl

lemma resolve_eq_ok : q.resolve = .ok () ↔ q.nesting + q.innerNesting ≤ maxNesting := by
  rw [resolve]
  split
  · next h => exact iff_of_false nofun (Nat.not_le.mpr h)
  · next h => exact iff_of_true rfl (Nat.not_lt.mp h)

/-- No pattern is too long that is looked at before any row, if none is. -/
lemma checkDecided_of_short {params : List Param}
    (h : ∀ c ∈ conditions, c.isOverlong params = false) :
    q.checkDecided params conditions = .ok () := by
  induction conditions with
  | nil => rfl
  | cons c rest ih =>
      obtain ⟨hc, hrest⟩ := List.forall_mem_cons.mp h
      rw [checkDecided, hc, if_neg (by simp), ih hrest]
      split <;> rfl

/-- Where nothing is refuted, all patterns are short enough of conditions that other ones decide. -/
lemma short_of_checkDecided {params : List Param} {c : Condition}
    (h : q.checkDecided params conditions = .ok ())
    (hall : ∀ c ∈ conditions, c ≠ .never ∧ q.isFailed params c = false) (hc : c ∈ conditions)
    (hd : (q.deciding? c).isSome = true) : c.isOverlong params = false := by
  induction conditions with
  | nil => cases hc
  | cons c' rest ih =>
      obtain ⟨⟨hnever, hfailed⟩, hrest⟩ := List.forall_mem_cons.mp hall
      rw [checkDecided] at h
      split at h
      · cases h
      · next hshort =>
        rw [if_neg (by simp [hnever, hfailed])] at h
        rcases List.mem_cons.mp hc with rfl | hc
        · simpa [hd] using hshort
        · exact ih h hrest hc

end Select

/-! ### Answers -/

namespace Database

variable {db : Database} {b : Select.Bound} {q : Select} {t : Table} {leases : LeaseTable}

/-- A query is ready to be looked at if it is within the limits and its tables are there. -/
lemma prepare_eq_ok : db.prepare q = .ok (t, leases) ↔
    q.Fits ∧ db.table? q.table = some t ∧ db.leasesOf q = .ok leases := by
  rw [prepare, Except.bind_eq_ok]
  constructor
  · rintro ⟨_, hread, h⟩
    obtain ⟨t', ht, h⟩ := Except.bind_eq_ok.mp h
    obtain ⟨leases', hleases, h⟩ := Except.bind_eq_ok.mp h
    obtain ⟨_, hresolve, h⟩ := Except.bind_eq_ok.mp h
    cases h
    exact ⟨⟨(Select.read_eq_ok.mp hread).1, Select.resolve_eq_ok.mp hresolve⟩, table_eq_ok.mp ht,
      hleases⟩
  · rintro ⟨hfits, ht, hleases⟩
    have hnesting := hfits.nesting
    exact ⟨(), Select.read_eq_ok.mpr ⟨hfits.places, by omega⟩, Except.bind_eq_ok.mpr ⟨t,
      table_eq_ok.mpr ht, Except.bind_eq_ok.mpr ⟨leases, hleases, Except.bind_eq_ok.mpr
        ⟨(), Select.resolve_eq_ok.mpr hnesting, rfl⟩⟩⟩⟩

theorem select_of_tooDeep (hp : b.query.placeholders.length ≤ maxPlaces)
    (h : maxNesting < b.query.nesting) (db : Database) : db.select b = .error .tooDeep := by
  rw [select, prepare, Select.read_of_tooDeep hp h]
  rfl

theorem count_of_tooDeep (hp : b.query.placeholders.length ≤ maxPlaces)
    (h : maxNesting < b.query.nesting) (db : Database) : db.count b = .error .tooDeep := by
  rw [count, prepare, Select.read_of_tooDeep hp h]
  rfl

end Database

end LeasedStore
