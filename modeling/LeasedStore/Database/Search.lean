/-
What a query answers.

Conditions are looked at row by row and from left to right, up to the first that does not hold, so a
damaged document is only reported if its row is reached.  Conditions on the key go first where the
key leads to the rows, and rows that come in the order of their keys are looked at no longer than
the limit demands.  A condition that fixes a column decides the other conditions on that column
before any row is looked at.  The limits of the database are met first where the statement is read,
and then wherever a pattern is looked at.

* `Datum.order`: nulls before numbers before texts;
* `Comparison.holds`, `Condition.holds`: the meaning of a condition on a row; null satisfies none;
* `Condition.test`: the same where patterns may be too long;
* `Select.isRefuted`: is there nothing to find, whatever the rows are?
* `Select.checkDecided`: the patterns that are looked at before any row;
* `Select.scanned`: the conditions in the order in which they are looked at;
* `takeMatching`: the rows that match, up to some number of them;
* `Database.prepare`: the table and the leases that a query looks at, once its text is read;
* `Database.select`, `Database.count`: the rows of a query, and how many there are.
-/
import LeasedStore.Sql.Like
import LeasedStore.Sql.Select
import LeasedStore.Database.Basic
import LeasedStore.Database.JsonMember
import LeasedStore.Database.Limits

namespace LeasedStore

open Decimal (RealNumber)
open Text (Codes)

/-! ### What is compared -/

/-- What conditions compare: the contents of columns, and texts out of documents. -/
inductive Datum where
  | null
  | int (n : Int64)
  | real (x : RealNumber)
  | text (s : Codes)
  deriving DecidableEq, Repr

namespace Datum

/-- The content of a column. -/
def ofCell : Cell → Datum
  | .null => null
  | .int n => int n
  | .real x => real x
  | .text s => text (Text.codes s.toList)

/-- The order of what is compared: nulls, then numbers by their values, then texts by their code
points. -/
def order : Datum → Datum → Ordering
  | null, null => .eq
  | null, _ => .lt
  | _, null => .gt
  | int m, int n => compare m n
  | int m, real y => RealNumber.compareInt m y
  | real x, int n => (RealNumber.compareInt n x).swap
  | real x, real y => x.compare y
  | text s, text t => compare s t
  | text _, _ => .gt
  | _, text _ => .lt

/-- The text that a pattern is compared with, that of a number being its numeral. -/
def asText : Datum → Codes
  | null => []
  | int n => Text.codes (Numeral.ofInt64 n).toList
  | real x => Text.codes x.text.toList
  | text s => s

end Datum

/-! ### Conditions -/

/-- Does a comparison hold between two values?  None holds of null. -/
def Comparison.holds (c : Comparison) (a b : Datum) : Bool :=
  a ≠ .null && b ≠ .null &&
    match c with
    | .equal => a.order b = .eq
    | .notEqual => a.order b ≠ .eq
    | .less => a.order b = .lt
    | .lessOrEqual => a.order b ≠ .gt
    | .greater => a.order b = .gt
    | .greaterOrEqual => a.order b ≠ .lt
    | .like => isLike a.asText b.asText

/-- The cell that stands at a place. -/
def Placeholder.cell (p : Placeholder) (params : List Param) : Cell :=
  ((p.param? params).map Param.cell).getD .null

/-- The value that stands at a place. -/
def Placeholder.datum (p : Placeholder) (params : List Param) : Datum := .ofCell (p.cell params)

/-- The value of an expression on a row; the steps of the other dialect are no SQL here. -/
def Expr.datum (params : List Param) (r : Row) : Expr → Except DatabaseError Datum
  | column name => .ok (.ofCell (r.cell name))
  | pathText c path =>
    match path.cell params with
    | .text p => (memberText p (r.cell c)).map fun s => (s.map Datum.text).getD .null
    | _ => .ok .null
  | keysText .. => .error (.badSql ":")

/-- The name of a column without that of its table. -/
def unqualified (name : String) : String :=
  String.ofList ((splitOn '.' name.toList).getLastD [])

/-- Has the entity of an id no active lease? -/
def LeaseTable.isFree (t : LeaseTable) (kind id now : Cell) : Bool :=
  match kind, id, now with
  | .text kind, .text id, .int now => (t.active? now ⟨kind, id⟩).isNone
  | _, _, _ => true

namespace Condition

/-- Does a condition hold on a row? -/
def holds (leases : LeaseTable) (params : List Param) (r : Row) :
    Condition → Except DatabaseError Bool
  | compare e c operand => (e.datum params r).map fun a => c.holds a (operand.datum params)
  | oneOf e operands =>
    (e.datum params r).map fun a =>
      operands.any fun o => Comparison.equal.holds a (o.datum params)
  | never => .ok false
  | unleased idExpr kind now =>
    .ok (leases.isFree (kind.cell params) (r.cell (unqualified idExpr)) (now.cell params))

/-- A condition looked at on a row: its pattern, if it has one, after the value that is compared. -/
def test (leases : LeaseTable) (params : List Param) (r : Row) (c : Condition) :
    Except DatabaseError Bool := do
  let isHeld ← c.holds leases params r
  if c.isOverlong params then throw .overlongPattern else return isHeld

/-- Do all conditions hold on a row?  They are looked at up to the first that does not. -/
def allHold (leases : LeaseTable) (params : List Param) (r : Row) :
    List Condition → Except DatabaseError Bool
  | [] => .ok true
  | c :: rest => do
    if ← c.test leases params r then allHold leases params r rest else return false

/-- The column that the condition is about alone. -/
def column? : Condition → Option String
  | compare (.column c) _ _ => some c
  | oneOf (.column c) _ => some c
  | _ => none

/-- The value at which the condition fixes its column. -/
def fixedAt? : Condition → Option Placeholder
  | compare (.column _) .equal p => some p
  | oneOf (.column _) [p] => some p
  | _ => none

/-- Is the condition about the key alone? -/
def isOnKey (key : String) (c : Condition) : Bool := c.column? = some key

/-- Does the condition lead to the rows of some keys? -/
def isKeyRange (key : String) : Condition → Bool
  | compare (.column c) op _ => c = key && op ≠ .notEqual && op ≠ .like
  | oneOf (.column c) _ => c = key
  | _ => false

/-- Is the condition about leases? -/
def isOnLeases : Condition → Bool
  | unleased .. => true
  | _ => false

end Condition

namespace Select

/-- The last condition that fixes a column. -/
def fixing? (q : Select) (column : String) : Option Condition :=
  q.conditions.reverse.find? fun c => c.column? = some column && c.fixedAt?.isSome

/-- The condition that decides another one by fixing its column. -/
def deciding? (q : Select) (c : Condition) : Option Condition :=
  (c.column?.bind q.fixing?).filter fun f => f ≠ c

/-- Does a condition fail because another one fixes its column? -/
def isFailed (q : Select) (params : List Param) (c : Condition) : Bool :=
  match c.column?, (q.deciding? c).bind Condition.fixedAt? with
  | some column, some place =>
    let fixed : Row := ⟨[(column, place.cell params)]⟩
    match c.holds .empty params fixed with
    | .ok isHeld => !isHeld
    | .error _ => false
  | _, _ => false

/-- Is there nothing to find, whatever the rows are? -/
def isRefuted (q : Select) (params : List Param) : Bool :=
  q.conditions.any fun c => c = .never || q.isFailed params c

/-- The conditions that other ones decide, looked at one after the other up to the first that fails:
is no pattern among them too long? -/
def checkDecided (q : Select) (params : List Param) : List Condition → Except DatabaseError Unit
  | [] => .ok ()
  | c :: rest =>
    if (q.deciding? c).isSome && c.isOverlong params then .error .overlongPattern
    else if c = .never || q.isFailed params c then .ok ()
    else q.checkDecided params rest

/-- Do the rows come in the order of their keys alone? -/
def isInKeyOrder (q : Select) (key : String) : Bool := q.order.map Prod.fst = [key]

/-- The conditions that no other one decides. -/
def undecided (q : Select) : List Condition :=
  q.conditions.filter fun c => (q.deciding? c).isNone

/-- Are the rows looked up by their keys? -/
def isKeyed (q : Select) (key : String) : Bool :=
  q.isInKeyOrder key || q.undecided.any (Condition.isKeyRange key)

/-- The conditions in the order in which they are looked at: those on the key where rows are looked
up by it, then the others. -/
def scanned (q : Select) (key : String) : List Condition :=
  if q.isKeyed key then
    q.undecided.filter (Condition.isOnKey key) ++ q.undecided.filter fun c => !c.isOnKey key
  else q.undecided

end Select

/-! ### Rows -/

/-- Does a row come before another one, or level with it, in an order of columns? -/
def rowLe (order : List (String × SortOrder)) (a b : Row) : Bool :=
  match order with
  | [] => true
  | (column, direction) :: rest =>
    match (Datum.ofCell (a.cell column)).order (.ofCell (b.cell column)) with
    | .eq => rowLe rest a b
    | .lt => direction = .ascending
    | .gt => direction = .descending

/-- Rows in an order of columns; rows that are level keep their places. -/
def sortRows (order : List (String × SortOrder)) (rows : List Row) : List Row :=
  rows.mergeSort (rowLe order)

/-- The rows that match, at most so many, and none behind them is looked at. -/
def takeMatching {ε : Type} (isMatch : Row → Except ε Bool) :
    Nat → List Row → Except ε (List Row)
  | _, [] => .ok []
  | 0, _ => .ok []
  | n + 1, r :: rest => do
    if ← isMatch r then return r :: (← takeMatching isMatch n rest)
    else takeMatching isMatch (n + 1) rest

namespace Select.Bound

/-- The number that stands at a place; where there is no place, another one. -/
def number (b : Bound) (place : Option Placeholder) (absent : Nat) : Nat :=
  match place with
  | none => absent
  | some p =>
    match p.cell b.params with
    | .int n => n.toInt.toNat
    | _ => absent

/-- Does a row of a table match? -/
def isMatch (b : Bound) (leases : LeaseTable) (d : TableDef) (r : Row) :
    Except DatabaseError Bool :=
  Condition.allHold leases b.params r (b.query.scanned d.key)

/-- The rows of a table that can match. -/
def candidates (b : Bound) (t : Table) : List Row :=
  if b.query.isRefuted b.params then [] else t.rows

/-- The rows of a table that a query answers, with all their columns. -/
def rowsOf (b : Bound) (leases : LeaseTable) (t : Table) : Except DatabaseError (List Row) := do
  let rows := b.candidates t
  let offset := b.number b.query.offset 0
  let limit := b.number b.query.limit rows.length
  let isMatch := b.isMatch leases t.definition
  if b.query.isInKeyOrder t.definition.key then
    let found ← takeMatching isMatch (offset + limit) (sortRows b.query.order rows)
    return found.drop offset
  else
    let found ← takeMatching isMatch rows.length rows
    return ((sortRows b.query.order found).drop offset).take limit

end Select.Bound

namespace Database

/-- The leases that a query looks at. -/
def leasesOf (db : Database) (q : Select) : Except DatabaseError LeaseTable :=
  if q.conditions.any Condition.isOnLeases then db.leaseTable else .ok .empty

/-- The table and the leases that a query looks at, once its text is read. -/
def prepare (db : Database) (q : Select) : Except DatabaseError (Table × LeaseTable) := do
  q.read
  let t ← db.table q.table
  let leases ← db.leasesOf q
  q.resolve
  return (t, leases)

/-- The rows that a query answers. -/
def select (db : Database) (b : Select.Bound) : Except DatabaseError (List Row) := do
  let (t, leases) ← db.prepare b.query
  b.query.checkDecided b.params b.query.conditions
  let rows ← b.rowsOf leases t
  match b.query.projection with
  | .columns names => return rows.map fun r => r.project names
  | .count => return []

/-- How many rows match a query. -/
def count (db : Database) (b : Select.Bound) : Except DatabaseError Nat := do
  let (t, leases) ← db.prepare b.query
  b.query.checkDecided b.params b.query.conditions
  let rows := b.candidates t
  return (← takeMatching (b.isMatch leases t.definition) rows.length rows).length

end Database

end LeasedStore
