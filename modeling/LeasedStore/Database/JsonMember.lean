/-
Members of stored JSON documents, as text.

* `Json5.along?`: the value along some keys, each naming the first member of its name;
* `Json5.columnText`: a value as a column of texts takes it over;
* `memberText`: the text of the member along a path, or the report that document or path is bad.
-/
import LeasedStore.Json5.Document
import LeasedStore.Json5.Label
import LeasedStore.Database.Row
import LeasedStore.Sql.JsonPath

namespace LeasedStore

open Text (Codes)

namespace Json5

/-- The value along some keys of a path. -/
def along? : List (List Char) → Json5 → Option Json5
  | [], j => some j
  | key :: keys, j => (j.member? key).bind (along? keys)

/-- A value as a column of texts takes it over; null is no text, and a number may be none. -/
def columnText : Json5 → Except DatabaseError (Option Codes)
  | null => .ok none
  | bool b => .ok (some (Text.codes [if b then '1' else '0']))
  | number n =>
    match n.text? with
    | some s => .ok (some (Text.codes s.toList))
    | none => .error .malformedJson
  | string s => .ok (some s.codes)
  | array items => .ok (some (Text.codes (array items).chars))
  | object members => .ok (some (Text.codes (object members).chars))

end Json5

/-- The text of the member of a document along a path; none where there is no member.  A path ends
at its first NUL, and what is no path is only noticed if its keys up to there lead to a value. -/
def memberText (path : String) : Cell → Except DatabaseError (Option Codes)
  | .text document => do
    let path := path.toList.takeWhile (· ≠ '\x00')
    let reading := JsonPath.read path
    match Json5.ofText? document with
    | none => throw .malformedJson
    | some j =>
      match j.along? reading.keys with
      | none => return none
      | some member =>
        if reading.isWhole then member.columnText
        else throw (.badJsonPath (String.ofList path))
  | _ => .ok none

end LeasedStore
