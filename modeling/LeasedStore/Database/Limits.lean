/-
What a database refuses to carry out, however sound it is.

A statement is read from left to right, and refused at the first place or the first conjunction that
is one too many.  Once it is read and its tables are found, the nesting of a query inside a
condition is counted on top of the nesting around it.  The length of a pattern is looked at only
when a text is compared with it.

* `maxPlaces`, `maxNesting`, `maxPatternSize`: the limits;
* `Condition.nesting`, `Select.nesting`: how deeply conditions are nested, alone and joined;
* `Select.read`, `Select.resolve`: a statement read, and its names looked up;
* `Condition.isOverlong`: is a pattern too long?

The limit of a thousand million bytes for a value, a row or a text of SQL is left out, and so are
the limits that no statement of a store comes near: on columns, on terms of an order, on joined
tables.
-/
import LeasedStore.Database.Error
import LeasedStore.Sql.Select

namespace LeasedStore

/-- How many parameters a statement may show. -/
def maxPlaces : Nat := 32766

/-- How deeply the expressions of a statement may be nested. -/
def maxNesting : Nat := 1000

/-- How many bytes a pattern may have. -/
def maxPatternSize : Nat := 50000

/-- The number of bytes of a value; that of an integer is below every limit. -/
def Param.size : Param → Nat
  | text s => s.utf8ByteSize
  | nullableText (some s) => s.utf8ByteSize
  | _ => 0

/-! ### Nesting -/

/-- How deeply an expression is nested: a name is one level, and every operation is one more. -/
def Expr.nesting : Expr → Nat
  | column _ => 1
  | pathText .. => 3
  | keysText _ keys => keys.length + 1

namespace Condition

/-- How deeply a condition is nested. -/
def nesting : Condition → Nat
  | compare e _ _ => e.nesting + 1
  -- that something is the only one of a list is read as its being equal to that with a sign
  | oneOf e [_] => max e.nesting 2 + 1
  | oneOf e _ => e.nesting + 1
  | never => 2
  | unleased .. => 7

/-- How deeply the conditions of the query inside a condition are nested. -/
def innerNesting : Condition → Nat
  | unleased .. => 5
  | _ => 0

/-- The number of places that another word of the condition stands behind. -/
def enclosed : Condition → Nat
  | compare e _ _ => e.placeholders.length
  | c => c.placeholders.length

/-- Is the pattern of the condition too long? -/
def isOverlong (params : List Param) : Condition → Bool
  | compare _ .like operand => (operand.param? params).any fun p => maxPatternSize < p.size
  | _ => false

end Condition

/-- How deeply conditions are nested that are joined, another one behind those of some nesting. -/
def joinedNesting (nesting : Nat) (c : Condition) : Nat :=
  if nesting = 0 then c.nesting else max nesting c.nesting + 1

/-! ### Statements -/

namespace Select

/-- How deeply the conditions of a query are nested. -/
def nesting (q : Select) : Nat := q.conditions.foldl joinedNesting 0

/-- How deeply the queries inside the conditions of a query are nested. -/
def innerNesting (q : Select) : Nat := (q.conditions.map Condition.innerNesting).foldl max 0

/-- The places of a query, in the order of its text. -/
def placeholders (q : Select) : List Placeholder :=
  q.conditions.flatMap Condition.placeholders ++ (q.limit.toList ++ q.offset.toList)

/-- The number of places after some conditions, read behind others of some places and some
nesting. -/
def readConditions : (places nesting : Nat) → List Condition → Except DatabaseError Nat
  | places, _, [] => .ok places
  | places, nesting, c :: rest =>
    let behind := places + c.placeholders.length
    -- the last place of a comparison is read together with the conjunction behind it
    if maxPlaces < places + c.enclosed then .error .tooManyPlaces
    else if maxNesting < joinedNesting nesting c then .error .tooDeep
    else if maxPlaces < behind then .error .tooManyPlaces
    else readConditions behind (joinedNesting nesting c) rest

/-- A query read from left to right. -/
def read (q : Select) : Except DatabaseError Unit := do
  let places ← readConditions 0 0 q.conditions
  if maxPlaces < places + (q.limit.toList ++ q.offset.toList).length then throw .tooManyPlaces

/-- The names in a query looked up. -/
def resolve (q : Select) : Except DatabaseError Unit :=
  if maxNesting < q.nesting + q.innerNesting then .error .tooDeep else .ok ()

end Select

end LeasedStore
