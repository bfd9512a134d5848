/-
Documents of JSON5: JSON with some liberties, which databases accept in their columns.

* `Json5`: a document; strings, keys and numbers are kept as they are written;
* `Json5.chars`: the document in compact JSON, all that is written in JSON already being kept.
-/
import LeasedStore.Json5.Number

namespace LeasedStore

/-- A document. -/
inductive Json5 where
  | null
  | bool (b : Bool)
  | number (n : Json5.Number)
  | string (s : Json5.Quoted)
  | array (items : List Json5)
  /-- Members under their keys, which may repeat. -/
  | object (members : List (Json5.Quoted × Json5))

namespace Json5

mutual

/-- The characters of the document in compact JSON. -/
def chars : Json5 → List Char
  | null => "null".toList
  | bool true => "true".toList
  | bool false => "false".toList
  | number n => n.chars
  | string s => s.chars
  | array items => '[' :: (itemChars items ++ [']'])
  | object members => '{' :: (memberChars members ++ ['}'])

/-- The items of an array, with commas between them. -/
def itemChars : List Json5 → List Char
  | [] => []
  | [item] => chars item
  | item :: rest => chars item ++ ',' :: itemChars rest

/-- The members of an object, with commas between them. -/
def memberChars : List (Quoted × Json5) → List Char
  | [] => []
  | [(key, value)] => key.chars ++ ':' :: chars value
  | (key, value) :: rest => key.chars ++ ':' :: (chars value ++ ',' :: memberChars rest)

end

end Json5

end LeasedStore
