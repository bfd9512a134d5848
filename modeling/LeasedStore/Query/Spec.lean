/-
Query specifications: which entities, in which order, which part of them.

* `SortOrder`: ascending or descending;
* `QuerySpec`: criteria, an optional sort property, offset and limit, with the defaults of
  `QuerySpec.new`;
* `QuerySpec.withFilter`, `withSort`, `withOffset`, `withLimit`: the same specification but for one
  part.
-/
import LeasedStore.Query.Criterion

namespace LeasedStore

/-- The direction of a sort. -/
inductive SortOrder where
  | ascending | descending
  deriving DecidableEq, Repr

namespace SortOrder

/-- The name of a direction, in SQL as in documents. -/
def name : SortOrder → String
  | ascending => "ASC"
  | descending => "DESC"

/-- The names that a document may use. -/
def table : List (String × SortOrder) := [("ASC", ascending), ("DESC", descending)]

/-- A direction from its name. -/
def decode : Json.Decoder SortOrder := Json.Decoder.choice table (table.map Prod.fst)

/-- A direction as its name. -/
def toJson (o : SortOrder) : Json := .string o.name

end SortOrder

/-- Which entities a query asks for. -/
structure QuerySpec where
  filter : List Criterion
  sortField : Option String
  sortOrder : SortOrder
  offset : UInt32
  limit : UInt32
  deriving DecidableEq, Repr

namespace QuerySpec

/-- How many entities a query asks for if it does not say. -/
def defaultLimit : UInt32 := 50

/-- All entities in the order of their ids, the first of them up to the default limit. -/
def new : QuerySpec := ⟨[], none, .ascending, 0, defaultLimit⟩

/-- The specification with one more criterion. -/
def withFilter (s : QuerySpec) (c : Criterion) : QuerySpec := { s with filter := s.filter ++ [c] }

/-- The specification with a sort property and a direction. -/
def withSort (s : QuerySpec) (property : String) (order : SortOrder) : QuerySpec :=
  { s with sortField := some property, sortOrder := order }

/-- The specification with an offset. -/
def withOffset (s : QuerySpec) (offset : UInt32) : QuerySpec := { s with offset := offset }

/-- The specification with a limit. -/
def withLimit (s : QuerySpec) (limit : UInt32) : QuerySpec := { s with limit := limit }

/-- A specification as a JSON object. -/
def toJson (s : QuerySpec) : Json :=
  .object [("filter", Criterion.listToJson s.filter), ("sortField", .ofText? s.sortField),
    ("sortOrder", s.sortOrder.toJson), ("offset", .ofUInt32 s.offset),
    ("limit", .ofUInt32 s.limit)]

/-- The fields of a specification, each with the value it has in a new one. -/
def record : Json.Record QuerySpec :=
  mk <$> Json.Record.defaultField "filter" (Json.Decoder.listOf Criterion.decode) new.filter
    <*> Json.Record.defaultField "sortField" (Json.Decoder.optional Json.Decoder.string)
      new.sortField
    <*> Json.Record.defaultField "sortOrder" SortOrder.decode new.sortOrder
    <*> Json.Record.defaultField "offset" Json.Decoder.uint32 new.offset
    <*> Json.Record.defaultField "limit" Json.Decoder.uint32 new.limit

/-- A specification from a document. -/
def decode : Json.Decoder QuerySpec := record.decoder ⟨"QuerySpec", 5⟩

end QuerySpec

end LeasedStore
