/-
What is wrong with JSON text, or with a document that is to be read as a value of some type.

* `Fault.syntactic`, `Fault.Syntactic`: faults of the text itself, at a place of it;
* the other constructors: the text is JSON, but not of the wanted type;
* `Fault.category`: text that ends too early, text that goes wrong, or a wrong type;
* `Fault.message`: the wording of each.
-/
import LeasedStore.Json.Printer

namespace LeasedStore.Json

/-- A fault of JSON text. -/
inductive Fault.Syntactic where
  | eofInList | eofInObject | eofInString | eofInValue
  | expectedColon | expectedListCommaOrEnd | expectedObjectCommaOrEnd
  | expectedIdent | expectedValue
  | invalidEscape | invalidNumber | numberOutOfRange
  | controlCharacter | keyNotString | loneSurrogate | unfinishedSurrogate
  | trailingComma | trailingCharacters | tooDeep
  deriving DecidableEq, Repr

/-- A fault of JSON text or of the document in it. -/
inductive Fault where
  | syntactic (f : Fault.Syntactic)
  /-- A value of another type: what was found, and what was wanted. -/
  | wrongType (found wanted : String)
  /-- A value of the right type outside its range. -/
  | wrongValue (found wanted : String)
  | wrongLength (length : Nat) (wanted : String)
  | missingField (name : String)
  | duplicateField (name : String)
  /-- A name that is none of the choices. -/
  | unknownVariant (name : String) (choices : List String)
  /-- A value that fits none of the forms of a type. -/
  | noForm (typeName : String)
  deriving DecidableEq, Repr

namespace Fault

/-- The kinds of faults that callers tell apart. -/
inductive Category where
  | malformed | truncated | mistyped
  deriving DecidableEq, Repr

/-- The kind of a fault. -/
def category : Fault → Category
  | .syntactic .eofInList | .syntactic .eofInObject | .syntactic .eofInString
  | .syntactic .eofInValue => .truncated
  | .syntactic _ => .malformed
  | _ => .mistyped

/-- The wording of a fault of the text. -/
def Syntactic.message : Syntactic → String
  | .eofInList => "EOF while parsing a list"
  | .eofInObject => "EOF while parsing an object"
  | .eofInString => "EOF while parsing a string"
  | .eofInValue => "EOF while parsing a value"
  | .expectedColon => "expected `:`"
  | .expectedListCommaOrEnd => "expected `,` or `]`"
  | .expectedObjectCommaOrEnd => "expected `,` or `\x7d`"
  | .expectedIdent => "expected ident"
  | .expectedValue => "expected value"
  | .invalidEscape => "invalid escape"
  | .invalidNumber => "invalid number"
  | .numberOutOfRange => "number out of range"
  | .controlCharacter => "control character (\\u0000-\\u001F) found while parsing a string"
  | .keyNotString => "key must be a string"
  | .loneSurrogate => "lone leading surrogate in hex escape"
  | .unfinishedSurrogate => "unexpected end of hex escape"
  | .trailingComma => "trailing comma"
  | .trailingCharacters => "trailing characters"
  | .tooDeep => "recursion limit exceeded"

/-- A choice between names, as it is worded. -/
def choiceText (choices : List String) : String :=
  let ticked := choices.map fun c => "`" ++ c ++ "`"
  match ticked with
  | [] => "there are no variants"
  | [a] => "expected " ++ a
  | [a, b] => "expected " ++ a ++ " or " ++ b
  | names => "expected one of " ++ ", ".intercalate names

/-- The wording of a fault. -/
def message : Fault → String
  | .syntactic f => f.message
  | .wrongType found wanted => "invalid type: " ++ found ++ ", expected " ++ wanted
  | .wrongValue found wanted => "invalid value: " ++ found ++ ", expected " ++ wanted
  | .wrongLength n wanted => "invalid length " ++ Numeral.ofNat n ++ ", expected " ++ wanted
  | .missingField name => "missing field `" ++ name ++ "`"
  | .duplicateField name => "duplicate field `" ++ name ++ "`"
  | .unknownVariant name choices => "unknown variant `" ++ name ++ "`, " ++ choiceText choices
  | .noForm typeName => "data did not match any variant of untagged enum " ++ typeName

end Fault

end LeasedStore.Json
