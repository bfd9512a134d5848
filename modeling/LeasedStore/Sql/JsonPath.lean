/-
Paths into JSON documents.

* `splitOn`: the parts of a text between the occurrences of a character;
* `JsonPath.isKey`: can a path address a key?
* `JsonPath.chars`: a path as text, `$` and then every key between quotes behind a point;
* `JsonPath.read`: the keys of such a text, each of them ending at the next quote.
-/
namespace LeasedStore

/-- The parts of a text between the occurrences of a character, one more than there are. -/
def splitOn (c : Char) : List Char → List (List Char)
  | [] => [[]]
  | x :: rest =>
    if x = c then [] :: splitOn c rest
    else
      match splitOn c rest with
      | [] => [[x]]
      | part :: parts => (x :: part) :: parts

namespace JsonPath

/-- Can a path address the key?  It must not be empty nor hold a quote. -/
def isKey (key : List Char) : Bool := !key.isEmpty && !key.contains '"'

/-- The text of a path behind its root. -/
def stepChars : List (List Char) → List Char
  | [] => []
  | key :: rest => '.' :: '"' :: (key ++ '"' :: stepChars rest)

/-- The text of a path. -/
def chars (keys : List (List Char)) : List Char := '$' :: stepChars keys

/-- The text of the path along some keys. -/
def text (keys : List String) : String := String.ofList (chars (keys.map String.toList))

/-- What a text says as a path: its keys, up to where it is no path any more. -/
structure Reading where
  keys : List (List Char)
  /-- Is the text a path up to its end? -/
  isWhole : Bool
  deriving DecidableEq, Repr

/-- A key in front of others. -/
def Reading.cons (key : List Char) (r : Reading) : Reading := ⟨key :: r.keys, r.isWhole⟩

/-- The keys of the steps of a path, read from behind the last character of an open key, whose
characters are given backwards, or from between two steps; a key extends to the next quote. -/
def readSteps : (openKey : Option (List Char)) → List Char → Reading
  | none, [] => ⟨[], true⟩
  | some _, [] => ⟨[], false⟩
  | some key, c :: rest =>
    if c = '"' then (readSteps none rest).cons key.reverse else readSteps (some (c :: key)) rest
  | none, '.' :: '"' :: rest => readSteps (some []) rest
  | none, _ => ⟨[], false⟩

/-- The keys of a path, as its text gives them. -/
def read : List Char → Reading
  | '$' :: rest => readSteps none rest
  | _ => ⟨[], false⟩

end JsonPath

end LeasedStore
