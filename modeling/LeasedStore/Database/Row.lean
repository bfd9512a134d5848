/-
Rows: what a table stores under the names of its columns.

* `Cell`: null, an integer, a real number or a text;
* `Row.cell`: the content of a column;
* `Row.text`, `Row.text?`, `Row.int`: the content as a program wants it, or why it cannot have it;
* `Row.document`, `Row.document?`: the content as a document of some type.

A column could hold bytes as well; nothing that is bound to a statement here is bytes, so there are
none.
-/
import LeasedStore.Decimal.Real
import LeasedStore.Error

namespace LeasedStore

open Decimal (RealNumber)

/-- The content of a column. -/
inductive Cell where
  | null
  | int (n : Int64)
  | real (x : RealNumber)
  | text (s : String)
  deriving DecidableEq, Repr

/-- The contents of some columns, under their names. -/
structure Row where
  cells : List (String × Cell)
  deriving DecidableEq, Repr

namespace Row

/-- The content of a column; null where there is no such column. -/
def cell (r : Row) (column : String) : Cell := (r.cells.lookup column).getD .null

/-- The row with another content of a column. -/
def set (r : Row) (column : String) (c : Cell) : Row :=
  ⟨r.cells.map fun x => if x.1 = column then (x.1, c) else x⟩

/-- The row with some of its columns only. -/
def project (r : Row) (columns : List String) : Row := ⟨columns.map fun c => (c, r.cell c)⟩

/-- The error of a column that does not give what is wanted. -/
def unreadable {α : Type} (column : String) (fault : ColumnFault) : Except StoreError α :=
  .error (.database (.unreadableColumn column fault))

/-- The text in a column. -/
def text (r : Row) (column : String) : Except StoreError String :=
  match r.cell column with
  | .text s => .ok s
  | .int _ => unreadable column (.mismatch .text .bigInt)
  | .real _ => unreadable column (.mismatch .text .double)
  | .null => unreadable column (.null .text)

/-- The text in a column, or its absence. -/
def text? (r : Row) (column : String) : Except StoreError (Option String) :=
  match r.cell column with
  | .null => .ok none
  | _ => (r.text column).map some

/-- The integer in a column. -/
def int (r : Row) (column : String) : Except StoreError Int64 :=
  match r.cell column with
  | .int n => .ok n
  | .text _ => unreadable column (.mismatch .bigInt .text)
  | .real _ => unreadable column (.mismatch .bigInt .double)
  | .null => unreadable column (.null .bigInt)

/-- A document as a value of some type, or the mishap of its column. -/
def ofDocument {α : Type} (column : String) (decode : Json.Decoder α) (raw : String) :
    Except StoreError α :=
  match Json.Decoder.ofText decode raw with
  | .ok a => .ok a
  | .error f => .error (.unexpected (.undecodable column f))

/-- The document in a column. -/
def document {α : Type} (r : Row) (column : String) (decode : Json.Decoder α) :
    Except StoreError α := do
  ofDocument column decode (← r.text column)

/-- The document in a column, or its absence. -/
def document? {α : Type} (r : Row) (column : String) (decode : Json.Decoder α) :
    Except StoreError (Option α) := do
  match ← r.text? column with
  | none => return none
  | some raw => return some (← ofDocument column decode raw)

end Row

end LeasedStore
