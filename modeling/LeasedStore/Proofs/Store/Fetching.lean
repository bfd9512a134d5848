/-
One page of a query, whatever the table holds.

A table may change from one page of a query to the next, so a page is looked at by itself: how many
entities it has, how many rows there are for it, and which errors it can end with.

* `length_takeMatching_le`, `Select.Bound.length_rowsOf_le`: the rows of a page stand behind its
  offset, and are no more than it asks for;
* `EntityStore.length_readRows_le`: the same of its entities;
* `IsAccepted`: is a result no refusal of a query?
* `StoreKind.isAccepted_ofRow`: reading a row never refuses the query;
* `EntityStore.isAccepted_readRows`, `isAccepted_readAll`, `isAccepted_count`: no page of a query
  that was accepted is refused, nor all of them together, nor a count.
-/
import LeasedStore.Proofs.Query.Answer
import LeasedStore.Proofs.Store.Paging
import LeasedStore.Store.Search

namespace LeasedStore

/-! ### How many rows there are -/

/-- No more rows are taken than are asked for, and than there are. -/
lemma length_takeMatching_le {ε : Type} {isMatch : Row → Except ε Bool} {rows found : List Row}
    {n : Nat} (h : takeMatching isMatch n rows = .ok found) :
    found.length ≤ n ∧ found.length ≤ rows.length := by
  -- on the rows; a row that does not match leaves the count that is asked for as it is
  induction rows generalizing n found with
  | nil =>
      rw [takeMatching] at h
      cases h
      simp
  | cons r rest ih =>
      cases n with
      | zero =>
          rw [takeMatching] at h
          · cases h
            simp
          · simp
      | succ n =>
          rw [takeMatching] at h
          obtain ⟨matched, -, h⟩ := Except.bind_eq_ok.mp h
          cases matched with
          | true =>
              obtain ⟨more, hmore, h⟩ := Except.bind_eq_ok.mp h
              cases h
              obtain ⟨hn, hrest⟩ := ih hmore
              simp only [List.length_cons]
              omega
          | false =>
              obtain ⟨hn, hrest⟩ := ih h
              simp only [List.length_cons]
              omega

/-- A query answers no more rows than its limit, and no more than there are behind its offset. -/
lemma Select.Bound.length_rowsOf_le {b : Select.Bound} {leases : LeaseTable} {t : Table}
    {rows : List Row} {offset limit : Nat} (h : b.rowsOf leases t = .ok rows)
    (hoffset : ∀ n, b.number b.query.offset n = offset)
    (hlimit : ∀ n, b.number b.query.limit n = limit) :
    rows.length ≤ limit ∧ rows.length ≤ t.rows.length - offset := by
  have hcandidates : (b.candidates t).length ≤ t.rows.length := length_candidates_le
  rw [rowsOf, hoffset, hlimit] at h
  split at h
  · obtain ⟨found, hfound, h⟩ := Except.bind_eq_ok.mp h
    cases h
    obtain ⟨hn, hrows⟩ := length_takeMatching_le hfound
    rw [(sortRows_perm _ _).length_eq] at hrows
    rw [List.length_drop]
    omega
  · obtain ⟨found, hfound, h⟩ := Except.bind_eq_ok.mp h
    cases h
    obtain ⟨-, hrows⟩ := length_takeMatching_le hfound
    rw [List.length_take, List.length_drop, (sortRows_perm _ _).length_eq]
    omega

namespace EntityStore

/-- A query answers no more entities than its limit, and no more than the table has rows behind its
offset. -/
lemma length_readRows_le {α : Type} [Entity α] {s : EntityStore α} {spec : QuerySpec} {b : Backend}
    {es : List α} (h : s.readRows spec b = .ok es) :
    ∃ t, b.database.table? s.mapping.table = some t ∧ es.length ≤ spec.limit.toNat ∧
      es.length ≤ t.rows.length - spec.offset.toNat := by
  obtain ⟨query, hq, h⟩ := Reading.bind_eq_ok.mp h
  obtain ⟨-, -, h⟩ := Reading.bind_eq_ok.mp h
  obtain ⟨rows, hrows, hes⟩ := Reading.bind_eq_ok.mp h
  rw [Reading.lift_apply] at hes
  obtain ⟨conditions, order, limit, offset, hquery, -, -, hlimit, hoffset⟩ :=
    TableMapping.select_eq_ok (Except.mapError_eq_ok.mp hq)
  obtain ⟨t, leases, found, -, ht, -, -, hfound, rfl⟩ :=
    (Database.select_eq_ok (by rw [hquery])).mp (Reading.database_eq_ok.mp hrows)
  have hl : query.query.limit = some limit := by rw [hquery]
  have ho : query.query.offset = some offset := by rw [hquery]
  have hle := Select.Bound.length_rowsOf_le hfound
    (fun n => by rw [ho, number_countParam hoffset n])
    (fun n => by rw [hl, number_countParam hlimit n])
  rw [← List.length_map (f := fun r => r.project s.mapping.columnNames),
    ← Except.length_of_mapM hes] at hle
  rw [hquery] at ht
  exact ⟨t, ht, hle⟩

end EntityStore

/-! ### Which errors there are -/

/-- Is a result no refusal of a query? -/
def IsAccepted {α : Type} (x : Except StoreError α) : Prop := ∀ e, x ≠ .error (.invalidQuery e)

section Accepted

variable {α β : Type} {r : Row} {column : String}

@[simp]
lemma isAccepted_ok (a : α) : IsAccepted (.ok a) := by simp [IsAccepted]

@[simp]
lemma isAccepted_pure (a : α) : IsAccepted (pure a) := isAccepted_ok a

@[simp]
lemma isAccepted_bind {x : Except StoreError α} {f : α → Except StoreError β} :
    IsAccepted (x >>= f) ↔ IsAccepted x ∧ ∀ a, x = .ok a → IsAccepted (f a) := by
  cases x with
  | error e => simp [IsAccepted, bind, Except.bind]
  | ok a => simp [IsAccepted, bind, Except.bind]

@[simp]
lemma isAccepted_map {x : Except StoreError α} {f : α → β} :
    IsAccepted (f <$> x) ↔ IsAccepted x := by
  cases x with
  | error e => simp [IsAccepted, Functor.map, Except.map]
  | ok a => simp [IsAccepted, Functor.map, Except.map]

lemma isAccepted_mapM {f : α → Except StoreError β} (h : ∀ a, IsAccepted (f a)) (xs : List α) :
    IsAccepted (xs.mapM f) := by
  induction xs with
  | nil => simp
  | cons x rest ih => simp [List.mapM_cons, h, ih]

@[simp]
lemma isAccepted_ofDatabase (x : Except DatabaseError α) :
    IsAccepted (StoreError.ofDatabase x) := by
  cases x <;> simp [IsAccepted, StoreError.ofDatabase, Except.mapError]

@[simp]
lemma isAccepted_unreadable (fault : ColumnFault) :
    IsAccepted (Row.unreadable (α := α) column fault) := by
  simp [IsAccepted, Row.unreadable]

@[simp]
lemma isAccepted_text : IsAccepted (r.text column) := by
  rw [Row.text]
  cases r.cell column <;> simp

@[simp]
lemma isAccepted_text? : IsAccepted (r.text? column) := by
  rw [Row.text?, Row.text]
  cases r.cell column <;> simp [IsAccepted, Row.unreadable, Except.map]

@[simp]
lemma isAccepted_int : IsAccepted (r.int column) := by
  rw [Row.int]
  cases r.cell column <;> simp

@[simp]
lemma isAccepted_ofDocument (decode : Json.Decoder α) (raw : String) :
    IsAccepted (Row.ofDocument column decode raw) := by
  rw [Row.ofDocument]
  cases Json.Decoder.ofText decode raw <;> simp [IsAccepted]

@[simp]
lemma isAccepted_document (decode : Json.Decoder α) : IsAccepted (r.document column decode) := by
  simp [Row.document]

@[simp]
lemma isAccepted_document? (decode : Json.Decoder α) : IsAccepted (r.document? column decode) := by
  rw [Row.document?, isAccepted_bind]
  refine ⟨isAccepted_text?, fun raw? _ => ?_⟩
  cases raw? <;> simp

@[simp]
lemma isAccepted_parse (entity text : String) : IsAccepted (Role.parse entity text) := by
  rw [Role.parse]
  cases Role.table.lookup text <;> simp [IsAccepted]

@[simp]
lemma isAccepted_stateOfCode (ofCode? : Int64 → Option α) (code : Int64) :
    IsAccepted (stateOfCode ofCode? code) := by
  rw [stateOfCode]
  cases ofCode? code <;> simp [IsAccepted]

end Accepted

/-- Reading a row as an entity never refuses the query. -/
lemma StoreKind.isAccepted_ofRow {k : StoreKind} (r : Row) :
    IsAccepted (Entity.ofRow r : Except StoreError k.Record) := by
  cases k with
  | asset =>
      change IsAccepted (Asset.ofRow r)
      simp [Asset.ofRow]
  | policyDefinition =>
      change IsAccepted (PolicyDefinition.ofRow r)
      simp [PolicyDefinition.ofRow]
  | contractDefinition =>
      change IsAccepted (ContractDefinition.ofRow r)
      simp [ContractDefinition.ofRow]
  | contractNegotiation =>
      change IsAccepted (ContractNegotiation.ofRow r)
      simp [ContractNegotiation.ofRow, ContractNegotiation.parseRole]
  | transferProcess =>
      change IsAccepted (TransferProcess.ofRow r)
      simp [TransferProcess.ofRow, TransferProcess.parseRole]

/-! ### Queries that were accepted -/

namespace EntityStore

variable {k : StoreKind} {s : EntityStore k.Record} {spec : QuerySpec} {query : Select.Bound}

@[simp]
lemma isAccepted_connect (b : Backend) : IsAccepted (Reading.connect b) := by
  rw [Reading.connect]
  split <;> simp [IsAccepted]

/-- No part of a query that was accepted is refused. -/
theorem isAccepted_readRows (h : s.mapping.select .sqlite spec = .ok query)
    (offset limit : UInt32) (b : Backend) :
    IsAccepted (s.readRows { spec with offset := offset, limit := limit } b) := by
  obtain ⟨part, hpart⟩ := TableMapping.exists_select h offset limit
  have hlift : Reading.lift ((s.mapping.select .sqlite
      { spec with offset := offset, limit := limit }).mapError .invalidQuery) b = .ok part := by
    rw [hpart]
    rfl
  rw [readRows, Reading.bind_of_ok hlift]
  refine isAccepted_bind.mpr ⟨isAccepted_connect b, fun _ _ =>
    isAccepted_bind.mpr ⟨isAccepted_ofDatabase _, fun rows _ => ?_⟩⟩
  exact isAccepted_mapM StoreKind.isAccepted_ofRow rows

/-- So none of its pages is. -/
theorem isAccepted_readAll (h : s.mapping.select .sqlite spec = .ok query) (b : Backend) :
    IsAccepted (s.readAll spec b) := by
  rw [readAll_of_select h]
  fun_induction readPages s spec b generalizing query with
  | case1 spec e hpage =>
      rw [← fetchPage_eq_error hpage]
      exact isAccepted_readRows h spec.offset _ b
  | case2 => exact isAccepted_ok _
  | case3 => exact isAccepted_ok _
  | case4 spec page hpage rest hrest ih =>
      -- what is left of the query differs from it in offset and limit alone
      have hif := (fetchPage_eq_some hpage).2
      rw [hrest, if_pos (length_of_rest hpage hrest)] at hif
      cases hif
      obtain ⟨query', hq'⟩ := TableMapping.exists_select h
        (spec.behind (s.pageLimit spec)).offset (spec.behind (s.pageLimit spec)).limit
      exact isAccepted_map.mpr (ih hq')

/-- A count that was accepted is not refused. -/
theorem isAccepted_count {filter : List Criterion}
    (h : s.mapping.count .sqlite filter = .ok query) (b : Backend) :
    IsAccepted (s.count filter b) := by
  have hlift : Reading.lift ((s.mapping.count .sqlite filter).mapError .invalidQuery) b =
      .ok query := Except.mapError_eq_ok.mpr h
  rw [count, Reading.bind_of_ok hlift]
  exact isAccepted_bind.mpr ⟨isAccepted_connect b, fun _ _ => isAccepted_ofDatabase _⟩

end EntityStore

end LeasedStore
