/-
Pages: the answer to a query, a few rows at a time.

Each page is a query of its own, so a stream sees what was written since its last page.  A page that
is not full is the last one.  Offsets are words of 32 bits, added without a carry.

* `Page`: some entities, and the query for the rest;
* `EntityStore.fetchPage`: the first page of a query, and the query for the rest;
* `EntityStore.readAll`: all pages of a query, one behind the other;
* `EntityStore.Stream`: a query that is read entity by entity, and `Stream.poll`, its next item.
-/
import LeasedStore.Store.Basic

namespace LeasedStore

/-- The query for what follows some rows. -/
def QuerySpec.behind (spec : QuerySpec) (n : UInt32) : QuerySpec :=
  { spec with offset := spec.offset + n, limit := spec.limit - n }

/-- The first entities that a query asks for. -/
structure Page (α : Type) (spec : QuerySpec) where
  entities : List α
  /-- The query for the rest, if there is one. -/
  rest : Option QuerySpec
  rest_limit_lt : ∀ r, rest = some r → r.limit.toNat < spec.limit.toNat

namespace EntityStore

variable {α : Type}

/-- How many rows the first page of a query asks for. -/
def pageLimit (s : EntityStore α) (spec : QuerySpec) : UInt32 :=
  if spec.limit < s.pageSize then spec.limit else s.pageSize

/-- The query for the first page is followed by one with a smaller limit. -/
theorem behind_limit_lt {s : EntityStore α} {spec : QuerySpec}
    (h : s.pageLimit spec < spec.limit) :
    (spec.behind (s.pageLimit spec)).limit.toNat < spec.limit.toNat := by
  have hpos : 0 < (s.pageLimit spec).toNat := by
    have := UInt32.lt_iff_toNat_lt.1 s.pageSize_pos
    simp only [pageLimit] at h ⊢
    split
    · next hlt => simp [hlt] at h
    · simpa using this
  have hlt := UInt32.lt_iff_toNat_lt.1 h
  simp only [QuerySpec.behind]
  rw [UInt32.toNat_sub_of_le _ _ (UInt32.le_iff_toNat_le.2 (Nat.le_of_lt hlt))]
  omega

variable [Entity α]

/-- The entities that a query answers, in one piece. -/
def readRows (s : EntityStore α) (spec : QuerySpec) : Reading (List α) := do
  let query ← Reading.lift ((s.mapping.select .sqlite spec).mapError .invalidQuery)
  Reading.connect
  let rows ← Reading.database fun db => db.select query
  Reading.lift (rows.mapM Entity.ofRow)

/-- The first page of a query; none if it asks for no entities. -/
def fetchPage (s : EntityStore α) (spec : QuerySpec) : Reading (Option (Page α spec)) :=
  if spec.limit = 0 then pure none
  else do
    let entities ← s.readRows { spec with limit := s.pageLimit spec }
    return some
      { entities := entities
        rest :=
          if entities.length = (s.pageLimit spec).toNat ∧ s.pageLimit spec < spec.limit then
            some (spec.behind (s.pageLimit spec))
          else none
        rest_limit_lt := by
          intro r hr
          split at hr
          · next h => exact Option.some.inj hr ▸ behind_limit_lt h.2
          · exact absurd hr (by simp) }

/-- All pages of a query, one behind the other. -/
def readPages (s : EntityStore α) (spec : QuerySpec) (b : Backend) : Except StoreError (List α) :=
  match s.fetchPage spec b with
  | .error e => .error e
  | .ok none => .ok []
  | .ok (some page) =>
    match _h : page.rest with
    | none => .ok page.entities
    | some rest => (s.readPages rest b).map (page.entities ++ ·)
termination_by spec.limit.toNat
decreasing_by exact page.rest_limit_lt rest _h

/-- The refusal of a query that cannot be carried out. -/
def check (s : EntityStore α) (spec : QuerySpec) : Except StoreError Unit :=
  match s.mapping.select .sqlite spec with
  | .ok _ => .ok ()
  | .error e => .error (.invalidQuery e)

/-- All entities that a query asks for. -/
def readAll (s : EntityStore α) (spec : QuerySpec) : Reading (List α) := do
  Reading.lift (s.check spec)
  s.readPages spec

/-! ### Streams -/

/-- A query that is read entity by entity. -/
structure Stream (α : Type) where
  /-- The entities of the current page that were not handed out yet. -/
  page : List α
  /-- The query for the rest, if there is one. -/
  rest : Option QuerySpec

/-- A stream of the entities that a query asks for, none of them read yet. -/
def stream (s : EntityStore α) (spec : QuerySpec) : Except StoreError (Stream α) :=
  (s.check spec).map fun _ => ⟨[], some spec⟩

/-- The stream after its end. -/
def Stream.ended (α : Type) : Stream α := ⟨[], none⟩

/-- The next item of a stream, none behind its end, and the stream afterwards; an error is the last
item. -/
def poll (s : EntityStore α) (st : Stream α) (b : Backend) :
    Option (Except StoreError α) × Stream α :=
  match st.page, st.rest with
  | e :: page, rest => (some (.ok e), ⟨page, rest⟩)
  | [], none => (none, st)
  | [], some spec =>
    match s.fetchPage spec b with
    | .error err => (some (.error err), Stream.ended α)
    | .ok none => (none, Stream.ended α)
    | .ok (some page) =>
      match page.entities with
      | [] => (none, Stream.ended α)
      | e :: entities => (some (.ok e), ⟨entities, page.rest⟩)

/-- The next items of a stream, at most so many, and the stream afterwards. -/
def take (s : EntityStore α) (b : Backend) :
    Nat → Stream α → List (Option (Except StoreError α)) × Stream α
  | 0, st => ([], st)
  | n + 1, st =>
    match s.poll st b with
    | (none, st) => ([none], st)
    | (some item, st) =>
      let (items, st) := s.take b n st
      (some item :: items, st)

end EntityStore

end LeasedStore
