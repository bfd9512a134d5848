/-
Streams over tables that change.

A stream reads a page when the entities of the last one are used up.  From one item to the next the
backend may become any other one, so nothing is said here of what the table holds: what bounds a
stream is that every page that is followed by another one is full and uses up some of the limit.

* `EntityStore.Fetch`: a page that a stream asked for, and the backend that it asked;
* `EntityStore.answers`, `fetches`: what a stream answers, polled at one backend after the other,
  and the pages that it asks for meanwhile;
* `EntityStore.polled`: what the next item of a stream comes to;
* `EntityStore.Paged`: from a query to the query for the rest, page by page;
* `EntityStore.isBounded_of_stream`: what holds of a stream whatever happens to its table.
-/
import Mathlib
import LeasedStore.Proofs.Query.Satisfied
import LeasedStore.Proofs.Store.Fetching

namespace LeasedStore.EntityStore

/-- A page that a stream asked for, and the backend that it asked. -/
structure Fetch where
  asked : QuerySpec
  backend : Backend

section Streams

variable {α : Type} [Entity α]

/-! ### What is asked and answered -/

/-- The first page of a query. -/
def fetch (s : EntityStore α) (spec : QuerySpec) (b : Backend) : Fetch :=
  ⟨{ spec with limit := s.pageLimit spec }, b⟩

/-- The page that a stream asks for when its next item is wanted; none while there are entities left
of the last one, and behind the end. -/
def fetch? (s : EntityStore α) (st : Stream α) (b : Backend) : Option Fetch :=
  match st.page, st.rest with
  | [], some spec => if spec.limit = 0 then none else some (s.fetch spec b)
  | _, _ => none

/-- What came of asking for a page. -/
def outcome (s : EntityStore α) (f : Fetch) : Except StoreError (List α) :=
  s.readRows f.asked f.backend

/-- The entities of a page; none if it could not be read. -/
def fetched (s : EntityStore α) (f : Fetch) : List α :=
  match s.outcome f with
  | .ok es => es
  | .error _ => []

/-- The items of a page: its entities, or its error. -/
def items (s : EntityStore α) (f : Fetch) : List (Except StoreError α) :=
  match s.outcome f with
  | .ok es => es.map .ok
  | .error e => [.error e]

/-- What a stream answers, polled at one backend after the other. -/
def answers (s : EntityStore α) : List Backend → Stream α → List (Option (Except StoreError α))
  | [], _ => []
  | b :: bs, st => (s.poll st b).1 :: s.answers bs (s.poll st b).2

/-- The pages that it asks for meanwhile. -/
def fetches (s : EntityStore α) : List Backend → Stream α → List Fetch
  | [], _ => []
  | b :: bs, st => (s.fetch? st b).toList ++ s.fetches bs (s.poll st b).2

/-- The stream afterwards. -/
def after (s : EntityStore α) : List Backend → Stream α → Stream α
  | [], st => st
  | b :: bs, st => s.after bs (s.poll st b).2

/-! ### The next item -/

/-- The query for what follows the first page, if there is anything to ask for. -/
def restBehind (s : EntityStore α) (spec : QuerySpec) (outcome : Except StoreError (List α)) :
    Option QuerySpec :=
  match outcome with
  | .ok es =>
    if es.length = (s.pageLimit spec).toNat ∧ s.pageLimit spec < spec.limit then
      some (spec.behind (s.pageLimit spec))
    else none
  | .error _ => none

omit [Entity α] in
lemma restBehind_nil (s : EntityStore α) (spec : QuerySpec) :
    s.restBehind spec (.ok []) = none := by
  rw [restBehind, if_neg]
  rintro ⟨hlength, hlt⟩
  exact Nat.ne_of_lt (pageLimit_pos hlt) hlength

/-- What the next item of a stream comes to, with the stream afterwards and the page that was asked
for. -/
inductive Polled (s : EntityStore α) (b : Backend) : Stream α →
    Option (Except StoreError α) × Stream α → Option Fetch → Prop where
  | handed (e : α) (page : List α) (rest : Option QuerySpec) :
      Polled s b ⟨e :: page, rest⟩ (some (.ok e), ⟨page, rest⟩) none
  | ended : Polled s b ⟨[], none⟩ (none, .ended α) none
  | unasked (spec : QuerySpec) (hlimit : spec.limit = 0) :
      Polled s b ⟨[], some spec⟩ (none, .ended α) none
  | failed (spec : QuerySpec) (hlimit : spec.limit ≠ 0) (e : StoreError)
      (h : s.outcome (s.fetch spec b) = .error e) :
      Polled s b ⟨[], some spec⟩ (some (.error e), .ended α) (some (s.fetch spec b))
  | empty (spec : QuerySpec) (hlimit : spec.limit ≠ 0) (h : s.outcome (s.fetch spec b) = .ok []) :
      Polled s b ⟨[], some spec⟩ (none, .ended α) (some (s.fetch spec b))
  | read (spec : QuerySpec) (hlimit : spec.limit ≠ 0) (e : α) (page : List α)
      (h : s.outcome (s.fetch spec b) = .ok (e :: page)) :
      Polled s b ⟨[], some spec⟩
        (some (.ok e), ⟨page, s.restBehind spec (s.outcome (s.fetch spec b))⟩)
        (some (s.fetch spec b))

/-- The next item of a stream is one of these. -/
theorem polled (s : EntityStore α) (st : Stream α) (b : Backend) :
    Polled s b st (s.poll st b) (s.fetch? st b) := by
  obtain ⟨page, rest⟩ := st
  cases page with
  | cons e page => exact .handed e page rest
  | nil =>
      cases rest with
      | none => exact .ended
      | some spec =>
          rw [poll, fetch?]
          dsimp only
          by_cases hlimit : spec.limit = 0
          · have hpage : s.fetchPage spec b = .ok none := by
              rw [fetchPage, if_pos hlimit]
              rfl
            rw [hpage, if_pos hlimit]
            exact .unasked spec hlimit
          · rw [if_neg hlimit]
            cases hpage : s.fetchPage spec b with
            | error e => exact .failed spec hlimit e (fetchPage_eq_error hpage)
            | ok page? =>
                cases page? with
                | none => exact absurd (fetchPage_eq_none hpage) hlimit
                | some page =>
                    obtain ⟨hread, hrest⟩ := fetchPage_eq_some hpage
                    have houtcome : s.outcome (s.fetch spec b) = .ok page.entities := hread
                    dsimp only
                    cases hes : page.entities with
                    | nil => exact .empty spec hlimit (hes ▸ houtcome)
                    | cons e rest =>
                        rw [hrest]
                        rw [hes] at houtcome ⊢
                        have hread := Polled.read spec hlimit e rest houtcome
                        rwa [houtcome] at hread

omit [Entity α] in
@[simp]
lemma page_ended : (Stream.ended α).page = [] := rfl

/-- Behind its end a stream answers nothing, asks for nothing, and stays at its end. -/
lemma run_ended (s : EntityStore α) (bs : List Backend) :
    (∀ item ∈ s.answers bs (.ended α), item = none) ∧ s.fetches bs (.ended α) = [] ∧
      s.after bs (.ended α) = .ended α := by
  induction bs with
  | nil => simp [answers, fetches, after]
  | cons b bs ih =>
      rw [answers, fetches, after]
      exact ⟨List.forall_mem_cons.mpr ⟨rfl, ih.1⟩, ih.2⟩

/-! ### All items -/

/-- A stream answers the items of the pages that it asks for, one behind the other, those first that
are left of an earlier page. -/
lemma answers_eq (s : EntityStore α) (bs : List Backend) (st : Stream α) :
    s.answers bs st = (List.range bs.length).map fun i =>
      (st.page.map .ok ++ (s.fetches bs st).flatMap s.items)[i]? := by
  induction bs generalizing st with
  | nil => rfl
  | cons b bs ih =>
      have hended : s.fetches bs (.ended α) = [] := (s.run_ended bs).2.1
      rw [answers, fetches, ih, List.length_cons, List.range_succ_eq_map, List.map_cons,
        List.map_map]
      have hstep := s.polled st b
      generalize s.poll st b = next at hstep ⊢
      generalize s.fetch? st b = fetch at hstep ⊢
      cases hstep with
      | handed e page rest => rfl
      | ended => simp [hended, Function.comp_def]
      | unasked spec hlimit => simp [hended, Function.comp_def]
      | failed spec hlimit e h => simp [hended, items, h, Function.comp_def]
      | empty spec hlimit h => simp [hended, items, h, Function.comp_def]
      | read spec hlimit e page h => simp [items, h, Function.comp_def]

/-- The entries of a list at its first places are its first entries. -/
lemma filterMap_getElem?_range {β : Type} (xs : List β) (n : ℕ) :
    (List.range n).filterMap (fun i => xs[i]?) = xs.take n := by
  induction n generalizing xs with
  | zero => rfl
  | succ n ih =>
      rw [List.range_succ_eq_map, List.filterMap_cons, List.filterMap_map]
      cases xs with
      | nil => simp
      | cons x xs => simpa using ih xs

/-- A page is asked of the backend that is polled. -/
lemma backend_of_fetch? {s : EntityStore α} {st : Stream α} {b : Backend} {f : Fetch}
    (h : s.fetch? st b = some f) : f.backend = b := by
  have hstep := s.polled st b
  rw [h] at hstep
  generalize s.poll st b = next at hstep
  cases hstep <;> rfl

/-- Pages are asked of the backends that are polled, in their order, and no two of them of one. -/
lemma backends_sublist (s : EntityStore α) (bs : List Backend) (st : Stream α) :
    ((s.fetches bs st).map Fetch.backend).Sublist bs := by
  induction bs generalizing st with
  | nil => exact List.nil_sublist _
  | cons b bs ih =>
      rw [fetches]
      cases h : s.fetch? st b with
      | none => exact (ih _).cons b
      | some f =>
          rw [Option.toList_some, List.singleton_append, List.map_cons, backend_of_fetch? h]
          exact (ih _).cons_cons b

/-- A stream that answers nothing has come to its end. -/
lemma after_eq_ended {s : EntityStore α} {bs : List Backend} {st : Stream α}
    (h : none ∈ s.answers bs st) : s.after bs st = .ended α := by
  induction bs generalizing st with
  | nil => cases h
  | cons b bs ih =>
      rw [answers] at h
      rw [after]
      have hstep := s.polled st b
      generalize s.poll st b = next at h hstep ⊢
      generalize s.fetch? st b = fetch at hstep
      cases hstep with
      | handed e page rest => exact ih (List.mem_of_ne_of_mem (by simp) h)
      | ended => exact (s.run_ended bs).2.2
      | unasked spec hlimit => exact (s.run_ended bs).2.2
      | failed spec hlimit e he => exact (s.run_ended bs).2.2
      | empty spec hlimit he => exact (s.run_ended bs).2.2
      | read spec hlimit e page he => exact ih (List.mem_of_ne_of_mem (by simp) h)

/-- Behind an error a stream answers nothing. -/
lemma eq_none_of_error {s : EntityStore α} {bs : List Backend} {st : Stream α} {e : StoreError}
    {before behind : List (Option (Except StoreError α))}
    (h : s.answers bs st = before ++ some (.error e) :: behind) : ∀ item ∈ behind, item = none := by
  induction bs generalizing st before with
  | nil => simp [answers] at h
  | cons b bs ih =>
      rw [answers] at h
      have hstep := s.polled st b
      generalize s.poll st b = next at h hstep
      generalize s.fetch? st b = fetch at hstep
      cases before with
      | nil =>
          obtain ⟨hitem, rfl⟩ := List.cons.inj h
          cases hstep with
          | failed spec hlimit e' he => exact (s.run_ended bs).1
          | _ => cases hitem
      | cons item before => exact ih (List.cons.inj h).2

/-! ### From page to page -/

/-- The pages that lead from a query to the query for the rest, if there is one. -/
inductive Paged (s : EntityStore α) : QuerySpec → List Fetch → Option QuerySpec → Prop where
  | refl (spec : QuerySpec) : Paged s spec [] (some spec)
  | unasked (spec : QuerySpec) (hlimit : spec.limit = 0) : Paged s spec [] none
  | last (spec : QuerySpec) (hlimit : spec.limit ≠ 0) (b : Backend)
      (hlast : s.restBehind spec (s.outcome (s.fetch spec b)) = none) :
      Paged s spec [s.fetch spec b] none
  | more (spec : QuerySpec) (hlimit : spec.limit ≠ 0) (b : Backend) {rest : QuerySpec}
      (hrest : s.restBehind spec (s.outcome (s.fetch spec b)) = some rest) {fs : List Fetch}
      {r : Option QuerySpec} (h : Paged s rest fs r) : Paged s spec (s.fetch spec b :: fs) r

/-- The same from what is left of a query: where nothing is left, there are no pages. -/
def PagedFrom (s : EntityStore α) :
    Option QuerySpec → List Fetch → Option QuerySpec → Prop
  | none, fs, r => fs = [] ∧ r = none
  | some spec, fs, r => Paged s spec fs r

/-- The pages that a stream asks for lead from what is left of its query to what is left
afterwards. -/
lemma paged (s : EntityStore α) (bs : List Backend) (st : Stream α) :
    PagedFrom s st.rest (s.fetches bs st) (s.after bs st).rest := by
  -- on the polls; only those that ask for a page add to the pages
  induction bs generalizing st with
  | nil =>
      rw [fetches, after]
      cases st.rest with
      | none => exact ⟨rfl, rfl⟩
      | some spec => exact .refl spec
  | cons b bs ih =>
      rw [fetches, after]
      have hnext := ih (s.poll st b).2
      have hstep := s.polled st b
      generalize s.poll st b = next at hnext hstep ⊢
      generalize s.fetch? st b = fetch at hstep ⊢
      cases hstep with
      | handed e page rest => exact hnext
      | ended => exact hnext
      | unasked spec hlimit =>
          obtain ⟨hfs, hr⟩ := hnext
          rw [hfs, hr]
          exact .unasked spec hlimit
      | failed spec hlimit e h =>
          obtain ⟨hfs, hr⟩ := hnext
          rw [hfs, hr]
          exact .last spec hlimit b (by rw [h]; rfl)
      | empty spec hlimit h =>
          obtain ⟨hfs, hr⟩ := hnext
          rw [hfs, hr]
          exact .last spec hlimit b (by rw [h, restBehind_nil])
      | read spec hlimit e page h =>
          cases hrest : s.restBehind spec (s.outcome (s.fetch spec b)) with
          | none =>
              rw [hrest] at hnext
              obtain ⟨hfs, hr⟩ := hnext
              rw [hfs, hr]
              exact .last spec hlimit b hrest
          | some rest =>
              rw [hrest] at hnext
              exact .more spec hlimit b hrest hnext

/-! ### What bounds a stream -/

/-- Are there so few rows in the table of a store that an offset can count them? -/
def IsCounted (s : EntityStore α) (b : Backend) : Prop :=
  ∀ t, b.database.table? s.mapping.table = some t → t.rows.length < UInt32.size

section Bounds

variable {s : EntityStore α} {spec rest : QuerySpec} {r : Option QuerySpec} {b : Backend}
  {fs : List Fetch}

/-- A page has no more entities than it asks for. -/
lemma length_fetched_le (s : EntityStore α) (f : Fetch) :
    (s.fetched f).length ≤ f.asked.limit.toNat := by
  rw [fetched]
  cases h : s.outcome f with
  | error e => simp
  | ok es =>
      obtain ⟨-, -, hle, -⟩ := length_readRows_le h
      exact hle

lemma mem_fetched {f : Fetch} {e : α} :
    e ∈ s.fetched f ↔ ∃ es, s.outcome f = .ok es ∧ e ∈ es := by
  cases h : s.outcome f <;> simp [fetched, h]

/-- An error among the items of a page is why it could not be read. -/
lemma outcome_of_error_mem_items {f : Fetch} {e : StoreError} (h : .error e ∈ s.items f) :
    s.outcome f = .error e := by
  cases ho : s.outcome f with
  | ok es => simp [items, ho] at h
  | error e' =>
      simp only [items, ho, List.mem_singleton, Except.error.injEq] at h
      rw [h]

lemma length_items_of_ok {f : Fetch} {es : List α} (h : s.outcome f = .ok es) :
    (s.items f).length = (s.fetched f).length := by
  simp [items, fetched, h]

/-- The items of a page are its entities, or a single error. -/
lemma length_items_le (s : EntityStore α) (f : Fetch) :
    (s.items f).length ≤ max 1 (s.fetched f).length := by
  cases h : s.outcome f with
  | error e => simp [items, fetched, h]
  | ok es =>
      rw [length_items_of_ok h]
      omega

/-- A page that is followed by another one is as full as pages are, and uses up some of the
limit. -/
lemma eq_of_restBehind (h : s.restBehind spec (s.outcome (s.fetch spec b)) = some rest)
    (hb : s.IsCounted b) :
    (∃ es, s.outcome (s.fetch spec b) = .ok es) ∧
      (s.fetched (s.fetch spec b)).length = s.pageSize.toNat ∧
      rest = { spec with offset := rest.offset, limit := rest.limit } ∧
      rest.offset.toNat = spec.offset.toNat + s.pageSize.toNat ∧
      s.pageSize.toNat < spec.limit.toNat ∧
      rest.limit.toNat = spec.limit.toNat - s.pageSize.toNat := by
  cases hes : s.outcome (s.fetch spec b) with
  | error e =>
      rw [hes] at h
      cases h
  | ok es =>
      rw [hes, restBehind] at h
      split at h
      · next hfull =>
        obtain ⟨hlength, hlt⟩ := hfull
        cases h
        -- a page that is followed by another one is not cut by the limit
        have hsize : s.pageLimit spec = s.pageSize := by
          rw [pageLimit] at hlt ⊢
          split at hlt
          · exact absurd hlt (UInt32.lt_irrefl _)
          · next hle => rw [if_neg hle]
        have hpos := pageLimit_pos hlt
        -- there are fewer rows than offsets, so that the next offset does not wrap around
        obtain ⟨t, ht, -, hroom⟩ := length_readRows_le hes
        have hrows := hb t ht
        have hbehind := QuerySpec.toNat_behind (s.pageLimit_le spec) (by
          change es.length ≤ t.rows.length - spec.offset.toNat at hroom
          omega)
        rw [hsize] at hlength hbehind hlt ⊢
        rw [fetched, hes]
        exact ⟨⟨es, rfl⟩, hlength, rfl, hbehind.1, UInt32.lt_iff_toNat_lt.mp hlt, hbehind.2⟩
      · cases h

/-- A page that is the last one could not be read, is not full, or uses up the limit. -/
lemma of_restBehind_eq_none (h : s.restBehind spec (s.outcome (s.fetch spec b)) = none) :
    (∃ e, s.outcome (s.fetch spec b) = .error e) ∨
      (s.fetched (s.fetch spec b)).length < (s.fetch spec b).asked.limit.toNat ∨
      (s.fetched (s.fetch spec b)).length = spec.limit.toNat := by
  have hle := s.length_fetched_le (s.fetch spec b)
  cases hes : s.outcome (s.fetch spec b) with
  | error e => exact .inl ⟨e, rfl⟩
  | ok es =>
      have hpage : s.fetched (s.fetch spec b) = es := by rw [fetched, hes]
      rw [hes, restBehind] at h
      rw [hpage] at hle ⊢
      change es.length ≤ (s.pageLimit spec).toNat at hle
      change _ ∨ es.length < (s.pageLimit spec).toNat ∨ _
      split at h
      · cases h
      · next hnot =>
        by_cases hfull : es.length = (s.pageLimit spec).toNat
        · have huse : s.pageLimit spec = spec.limit :=
            UInt32.le_antisymm (s.pageLimit_le spec)
              (UInt32.not_lt.mp fun hlt => hnot ⟨hfull, hlt⟩)
          rw [huse] at hfull
          exact .inr (.inr hfull)
        · exact .inr (.inl (by omega))

/-- The pages of a query, numbered: each of them asks for the rows behind those before it, as many
as are allowed still and a page has, and is followed by another one only if it is full. -/
lemma Paged.asked (h : Paged s spec fs r) (hfs : ∀ f ∈ fs, s.IsCounted f.backend)
    {before behind : List Fetch} {f : Fetch} (hf : fs = before ++ f :: behind) :
    let n := (before.flatMap s.fetched).length
    f.asked = { spec with offset := f.asked.offset, limit := f.asked.limit } ∧
      f.asked.offset.toNat = spec.offset.toNat + n ∧
      f.asked.limit.toNat = min (spec.limit.toNat - n) s.pageSize.toNat ∧
      (behind ≠ [] → (∃ es, s.outcome f = .ok es) ∧
        (s.fetched f).length = s.pageSize.toNat ∧
        n + s.pageSize.toNat < spec.limit.toNat) := by
  -- on the pages that were asked for; the one looked at is the first one or stands behind it
  induction h generalizing before with
  | refl spec => simp at hf
  | unasked spec hlimit => simp at hf
  | last spec hlimit b hlast =>
      cases before with
      | nil =>
          obtain ⟨rfl, rfl⟩ := List.cons.inj hf
          exact ⟨rfl, rfl, s.toNat_pageLimit spec, fun hne => absurd rfl hne⟩
      | cons g before => simp at hf
  | more spec hlimit b hrest h ih =>
      have hb : s.IsCounted b := hfs _ (List.mem_cons_self ..)
      obtain ⟨hok, hlength, hspec, hoffset, hlt, hlimit'⟩ := eq_of_restBehind hrest hb
      cases before with
      | nil =>
          obtain ⟨rfl, rfl⟩ := List.cons.inj hf
          refine ⟨rfl, rfl, s.toNat_pageLimit spec, fun _ => ⟨hok, hlength, ?_⟩⟩
          simpa using hlt
      | cons g before =>
          obtain ⟨rfl, htail⟩ := List.cons.inj hf
          obtain ⟨hasked, hoffset', hlimit'', hbehind⟩ :=
            ih (fun f hf => hfs f (List.mem_cons_of_mem _ hf)) htail
          rw [List.flatMap_cons, List.length_append, hlength]
          refine ⟨?_, by omega, by omega, fun hne => ?_⟩
          · rw [hasked, hspec]
          · obtain ⟨hok', hlength', hlt'⟩ := hbehind hne
            exact ⟨hok', hlength', by omega⟩

/-- There are no more pages than it takes to use up the limit. -/
lemma Paged.length_le (h : Paged s spec fs r) (hfs : ∀ f ∈ fs, s.IsCounted f.backend) :
    fs.length ≤ (spec.limit.toNat + s.pageSize.toNat - 1) / s.pageSize.toNat := by
  have hpos : 0 < s.pageSize.toNat := UInt32.lt_iff_toNat_lt.mp s.pageSize_pos
  induction h with
  | refl spec => simp
  | unasked spec hlimit => simp
  | last spec hlimit b hlast =>
      have hne : spec.limit.toNat ≠ 0 := fun hzero => hlimit (UInt32.toNat_inj.mp hzero)
      exact (Nat.le_div_iff_mul_le hpos).mpr (by rw [List.length_singleton]; omega)
  | more spec hlimit b hrest h ih =>
      have hb : s.IsCounted b := hfs _ (List.mem_cons_self ..)
      obtain ⟨-, -, -, -, hlt, hlimit'⟩ := eq_of_restBehind hrest hb
      have hle := ih fun f hf => hfs f (List.mem_cons_of_mem _ hf)
      have hsum : spec.limit.toNat + s.pageSize.toNat - 1 =
          spec.limit.toNat - s.pageSize.toNat + s.pageSize.toNat - 1 + s.pageSize.toNat := by omega
      rw [hlimit'] at hle
      rw [hsum, Nat.add_div_right _ hpos, List.length_cons]
      exact Nat.succ_le_succ hle

/-- There are no more items than the query asks for. -/
lemma Paged.length_items_le (h : Paged s spec fs r) (hfs : ∀ f ∈ fs, s.IsCounted f.backend) :
    (fs.flatMap s.items).length ≤ spec.limit.toNat := by
  induction h with
  | refl spec => simp
  | unasked spec hlimit => simp
  | last spec hlimit b hlast =>
      have hne : spec.limit.toNat ≠ 0 := fun hzero => hlimit (UInt32.toNat_inj.mp hzero)
      have hle : (s.fetched (s.fetch spec b)).length ≤ (s.pageLimit spec).toNat :=
        s.length_fetched_le (s.fetch spec b)
      rw [s.toNat_pageLimit spec] at hle
      have hitems := s.length_items_le (s.fetch spec b)
      rw [List.flatMap_singleton]
      omega
  | more spec hlimit b hrest h ih =>
      have hb : s.IsCounted b := hfs _ (List.mem_cons_self ..)
      obtain ⟨⟨es, hes⟩, hlength, -, -, hlt, hlimit'⟩ := eq_of_restBehind hrest hb
      have hle := ih fun f hf => hfs f (List.mem_cons_of_mem _ hf)
      rw [List.flatMap_cons, List.length_append, length_items_of_ok hes, hlength]
      omega

/-- Behind the end of a query for rows stands a page that could not be read, is not full, or uses up
the limit. -/
lemma Paged.exists_last (h : Paged s spec fs none) (hlimit : spec.limit ≠ 0)
    (hfs : ∀ f ∈ fs, s.IsCounted f.backend) :
    ∃ before f, fs = before ++ [f] ∧ ((∃ e, s.outcome f = .error e) ∨
      (s.fetched f).length < f.asked.limit.toNat ∨
      (fs.flatMap s.fetched).length = spec.limit.toNat) := by
  generalize hr : (none : Option QuerySpec) = r at h
  induction h with
  | refl spec => cases hr
  | unasked spec hzero => exact absurd hzero hlimit
  | last spec hlimit b hlast =>
      refine ⟨[], s.fetch spec b, rfl, ?_⟩
      simpa using of_restBehind_eq_none hlast
  | @more spec hlimit b rest hrest fs r h ih =>
      have hb : s.IsCounted b := hfs _ (List.mem_cons_self ..)
      obtain ⟨-, hlength, -, -, hlt, hlimit'⟩ := eq_of_restBehind hrest hb
      have hne : rest.limit ≠ 0 := fun hzero => by
        have hzero' : rest.limit.toNat = 0 := by rw [hzero]; rfl
        omega
      obtain ⟨before, f, rfl, hlast⟩ := ih hne (fun f hf => hfs f (List.mem_cons_of_mem _ hf)) hr
      refine ⟨s.fetch spec b :: before, f, rfl, ?_⟩
      rw [List.flatMap_cons, List.length_append, hlength]
      exact hlast.imp id (Or.imp id fun hused => by omega)

end Bounds

/-- There is a stream for a query that can be carried out. -/
lemma exists_select_of_stream {s : EntityStore α} {spec : QuerySpec} {st : Stream α}
    (h : s.stream spec = .ok st) :
    st = ⟨[], some spec⟩ ∧ ∃ query, s.mapping.select .sqlite spec = .ok query := by
  cases hq : s.mapping.select .sqlite spec with
  | error e =>
      rw [stream, check, hq] at h
      cases h
  | ok query =>
      rw [stream, check, hq] at h
      cases h
      exact ⟨rfl, query, rfl⟩

end Streams

/-! ### Streams, whatever happens to their table -/

/-- What holds of a stream that is polled at one backend after the other. -/
structure IsBounded {k : StoreKind} (s : EntityStore k.Record) (spec : QuerySpec)
    (st : Stream k.Record) (bs : List Backend) : Prop where
  /-- It answers the items of its pages, one behind the other, and nothing behind them. -/
  answers_eq : s.answers bs st =
    (List.range bs.length).map fun i => ((s.fetches bs st).flatMap s.items)[i]?
  /-- Each page is asked of a backend of its own. -/
  sublist : ((s.fetches bs st).map Fetch.backend).Sublist bs
  /-- A page asks for the rows behind those that were read, as many as the limit allows still, and a
  page has. -/
  asked : ∀ before f behind, s.fetches bs st = before ++ f :: behind →
    let n := (before.flatMap s.fetched).length
    f.asked = { spec with offset := f.asked.offset, limit := f.asked.limit } ∧
      f.asked.offset.toNat = spec.offset.toNat + n ∧
      f.asked.limit.toNat = min (spec.limit.toNat - n) s.pageSize.toNat
  /-- A page is followed by another one only if it could be read, is full, and leaves some of the
  limit. -/
  followed : ∀ before f behind, s.fetches bs st = before ++ f :: behind → behind ≠ [] →
    (∃ es, s.outcome f = .ok es) ∧ (s.fetched f).length = f.asked.limit.toNat ∧
      ((before ++ [f]).flatMap s.fetched).length < spec.limit.toNat
  /-- Nothing is answered only if no rows are asked for, or behind a page that could not be read, is
  not full, or uses up the limit. -/
  ended : none ∈ s.answers bs st → spec.limit = 0 ∨
    ∃ before f, s.fetches bs st = before ++ [f] ∧ ((∃ e, s.outcome f = .error e) ∨
      (s.fetched f).length < f.asked.limit.toNat ∨
      ((s.fetches bs st).flatMap s.fetched).length = spec.limit.toNat)
  /-- Nothing is answered behind an error. -/
  silent : ∀ before e behind, s.answers bs st = before ++ some (.error e) :: behind →
    ∀ item ∈ behind, item = none
  /-- There are no more pages than it takes to use up the limit. -/
  length_fetches_le : (s.fetches bs st).length ≤
    (spec.limit.toNat + s.pageSize.toNat - 1) / s.pageSize.toNat
  /-- There are no more items than the limit allows. -/
  length_items_le : ((s.answers bs st).filterMap id).length ≤ spec.limit.toNat
  /-- Polled as often as the limit says, it has come to its end. -/
  terminates : ∀ i, spec.limit.toNat ≤ i → i < bs.length → (s.answers bs st)[i]? = some none
  /-- Every entity comes from a row that satisfied all criteria when its page was read. -/
  satisfied : ∀ f ∈ s.fetches bs st, ∀ e ∈ s.fetched f,
    ∃ t r, f.backend.database.table? k.schema.mapping.table = some t ∧ r ∈ t.rows ∧
      Entity.ofRow (r.project k.schema.mapping.columnNames) = .ok e ∧
      ∀ c ∈ spec.filter, c.HoldsOn k.schema.mapping r
  /-- The query is not refused any more. -/
  accepted : ∀ e, some (.error (.invalidQuery e)) ∉ s.answers bs st

/-- A stream of a query that was accepted is bounded by the limit and the size of pages, and comes
to its end, whatever becomes of the table from one item to the next. -/
theorem isBounded_of_stream {k : StoreKind} {s : EntityStore k.Record} {spec : QuerySpec}
    {st : Stream k.Record} (h : s.stream spec = .ok st) (bs : List Backend)
    (hbs : ∀ b ∈ bs, s.IsCounted b) : s.IsBounded spec st bs := by
  obtain ⟨rfl, query, hq⟩ := exists_select_of_stream h
  have hpaged : Paged s spec _ _ := s.paged bs ⟨[], some spec⟩
  have hsublist := s.backends_sublist bs ⟨[], some spec⟩
  have hanswers := s.answers_eq bs ⟨[], some spec⟩
  have hfs : ∀ f ∈ s.fetches bs ⟨[], some spec⟩, s.IsCounted f.backend := fun f hf =>
    hbs _ (hsublist.subset (List.mem_map_of_mem hf))
  -- only the window changes from page to page, so that the filter stays the one of the query
  have hmem : ∀ f ∈ s.fetches bs ⟨[], some spec⟩,
      f.asked = { spec with offset := f.asked.offset, limit := f.asked.limit } := by
    intro f hf
    obtain ⟨before, behind, heq⟩ := List.append_of_mem hf
    exact (hpaged.asked hfs heq).1
  have hitems := hpaged.length_items_le hfs
  refine
    { answers_eq := hanswers, sublist := hsublist, asked := ?asked, followed := ?followed,
      ended := ?ended, silent := fun _ _ _ => eq_none_of_error,
      length_fetches_le := hpaged.length_le hfs, length_items_le := ?items,
      terminates := ?terminates, satisfied := ?satisfied, accepted := ?accepted }
  case asked =>
    intro before f behind hf n
    obtain ⟨hasked, hoffset, hlimit, -⟩ := hpaged.asked hfs hf
    exact ⟨hasked, hoffset, hlimit⟩
  case followed =>
    intro before f behind hf hne
    obtain ⟨-, -, hlimit, hbehind⟩ := hpaged.asked hfs hf
    obtain ⟨hok, hlength, hlt⟩ := hbehind hne
    rw [List.flatMap_append, List.length_append, List.flatMap_singleton]
    exact ⟨hok, by omega, by omega⟩
  case ended =>
    intro hnone
    by_cases hlimit : spec.limit = 0
    · exact .inl hlimit
    · rw [after_eq_ended hnone] at hpaged
      exact .inr (hpaged.exists_last hlimit hfs)
  case items =>
    have htake : (s.answers bs ⟨[], some spec⟩).filterMap id =
        ((s.fetches bs ⟨[], some spec⟩).flatMap s.items).take bs.length := by
      rw [hanswers, List.filterMap_map]
      exact filterMap_getElem?_range _ _
    rw [htake, List.length_take]
    omega
  case terminates =>
    intro i hlimit hi
    rw [hanswers, List.getElem?_map, List.getElem?_range hi]
    exact congrArg some (List.getElem?_eq_none (Nat.le_trans hitems hlimit))
  case satisfied =>
    intro f hf e he
    obtain ⟨es, hes, he⟩ := mem_fetched.mp he
    obtain ⟨t, r, ht, hr, hof, hall⟩ := exists_row_of_readRows hes he
    rw [hmem f hf] at hall
    exact ⟨t, r, ht, hr, hof, hall⟩
  case accepted =>
    intro e he
    rw [hanswers] at he
    obtain ⟨i, -, hitem⟩ := List.mem_map.mp he
    obtain ⟨f, hf, hitem⟩ := List.mem_flatMap.mp (List.mem_of_getElem? hitem)
    have hrefused := outcome_of_error_mem_items hitem
    rw [outcome, hmem f hf] at hrefused
    exact isAccepted_readRows hq _ _ f.backend e hrefused

/-- Rows that come and go, and at last one that cannot be read.  The second page has one of the rows
again that the first one had. -/
theorem isBounded_of_shifting_rows :
    let offer (id selector : String) (createdAt : Int64) : Row :=
      ⟨[("id", .text id), ("access_policy_id", .text "p"), ("contract_policy_id", .text "q"),
        ("asset_selector", .text selector), ("created_at", .int createdAt)]⟩
    let t₁ : Table := ⟨ContractDefinition.schema.tableDef,
      [offer "a" "[]" 1, offer "b" "[]" 0, offer "c" "[]" 2, offer "d" "[]" 3], by decide⟩
    let t₂ : Table := ⟨ContractDefinition.schema.tableDef,
      [offer "e" "[]" 9, offer "c" "[]" 2, offer "A" "[]" 5, offer "B" "[]" 6], by decide⟩
    let t₃ : Table := ⟨ContractDefinition.schema.tableDef,
      [offer "4" "[" 7, offer "0" "[]" 7, offer "1" "[]" 7, offer "2" "[]" 7, offer "3" "[]" 7],
      by decide⟩
    let b (t : Table) : Backend := ⟨⟨none, [t]⟩, true, ⟨0⟩, .empty⟩
    let bs := [b t₁, b t₃, b t₂, b t₁, b t₃, b t₁]
    let s : EntityStore StoreKind.contractDefinition.Record := .new _ 1000 2
    let spec : QuerySpec :=
      ⟨[⟨"createdAt", .compare .greaterOrEqual, .int 1⟩], none, .ascending, 0, 9⟩
    let st : Stream StoreKind.contractDefinition.Record := ⟨[], some spec⟩
    s.stream spec = .ok st ∧ (∀ b ∈ bs, s.IsCounted b) ∧
      (s.answers bs st).map (Option.map (Except.map Entity.id)) =
        [some (.ok "a"), some (.ok "c"), some (.ok "c"), some (.ok "e"),
          some (.error (.unexpected (.undecodable "asset_selector" (.syntactic .eofInList)))),
            none] ∧
      s.IsBounded spec st bs := by
  intro offer t₁ t₂ t₃ b bs s spec st
  obtain ⟨st', hst⟩ := Except.exists_of_isOk (x := s.stream spec) (by decide +kernel)
  obtain ⟨rfl, -⟩ := exists_select_of_stream hst
  have hcounted (t : Table) (ht : (b t).database.table? s.mapping.table = some t)
      (hsize : t.rows.length < UInt32.size) : s.IsCounted (b t) := by
    intro t' ht'
    rw [ht] at ht'
    cases ht'
    exact hsize
  have h₁ : s.IsCounted (b t₁) := hcounted t₁ rfl (by decide)
  have h₂ : s.IsCounted (b t₂) := hcounted t₂ rfl (by decide)
  have h₃ : s.IsCounted (b t₃) := hcounted t₃ rfl (by decide)
  have hbs : ∀ b ∈ bs, s.IsCounted b := by
    simp only [bs, List.forall_mem_cons]
    exact ⟨h₁, h₃, h₂, h₁, h₃, h₁, by simp⟩
  exact ⟨hst, hbs, by cbv, isBounded_of_stream hst bs hbs⟩

end LeasedStore.EntityStore
