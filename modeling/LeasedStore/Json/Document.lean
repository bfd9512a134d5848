/-
JSON text as far as it can be read.

A reader that wants a value of some type looks at the text from left to right and stops at the
first thing that it cannot use, be it a value of the wrong type or a fault of the text.  A document
keeps both in one tree, in the order of the text:

* `Document`: a value whose arrays and objects may end in a fault, or a fault in place of a value;
* `Document.Member`: a member with the fault, if any, met on the way past its value;
* `Document.read`: the document at the head of a text and, if it has no fault, the rest;
* `passValue`: the text behind a value that nobody wants to know, at any depth of nesting;
* `Document.ofJson`: the document of a value, without faults.
-/
import LeasedStore.Json.NumberText
import LeasedStore.Json.StringText
import LeasedStore.Text.Graphic

namespace LeasedStore.Json

/-- How an array ends. -/
inductive ArrayEnd where
  | closed
  /-- The text ends behind an item or the opening bracket. -/
  | unclosed
  /-- Something other than a comma follows an item. -/
  | stray
  | trailingComma
  /-- The text ends behind a comma. -/
  | unclosedComma
  /-- The array is nested too deep to be read. -/
  | tooDeep
  deriving DecidableEq, Repr

/-- How an object ends. -/
inductive ObjectEnd where
  | closed
  | unclosed
  | stray
  | trailingComma
  | unclosedComma
  | tooDeep
  /-- A key is no string. -/
  | strayKey
  /-- A key is a string that cannot be read. -/
  | brokenKey (f : Fault.Syntactic)
  deriving DecidableEq, Repr

/-- A JSON text as far as it can be read. -/
inductive Document where
  | null
  | bool (b : Bool)
  | number (n : Number)
  | string (s : String)
  | array (items : List Document) (stop : ArrayEnd)
  /-- Each member is a key, a value and the fault met on the way past the value. -/
  | object (members : List (String × Document × Option Fault)) (stop : ObjectEnd)
  | broken (f : Fault.Syntactic)
  deriving Inhabited

/-- A member of an object: a key, a value and the fault met on the way past the value. -/
abbrev Document.Member := String × Document × Option Fault

/-- The fault at the end of an array for a reader who asks for one more item. -/
def ArrayEnd.fault? : ArrayEnd → Option Fault
  | .closed => none
  | .unclosed => some (.syntactic .eofInList)
  | .stray => some (.syntactic .expectedListCommaOrEnd)
  | .trailingComma => some (.syntactic .trailingComma)
  | .unclosedComma => some (.syntactic .eofInValue)
  | .tooDeep => some (.syntactic .tooDeep)

/-- The fault at the end of an array for a reader who expects it to end. -/
def ArrayEnd.closingFault? : ArrayEnd → Option Fault
  | .closed => none
  | .unclosed => some (.syntactic .eofInList)
  | .stray | .unclosedComma => some (.syntactic .trailingCharacters)
  | .trailingComma => some (.syntactic .trailingComma)
  | .tooDeep => some (.syntactic .tooDeep)

/-- The fault at the end of an object for a reader who asks for one more member. -/
def ObjectEnd.fault? : ObjectEnd → Option Fault
  | .closed => none
  | .unclosed => some (.syntactic .eofInObject)
  | .stray => some (.syntactic .expectedObjectCommaOrEnd)
  | .trailingComma => some (.syntactic .trailingComma)
  | .unclosedComma => some (.syntactic .eofInValue)
  | .tooDeep => some (.syntactic .tooDeep)
  | .strayKey => some (.syntactic .keyNotString)
  | .brokenKey f => some (.syntactic f)

namespace Document

/-- What a value is called when another one was wanted there. -/
def describe : Document → Except Fault String
  | .null => .ok "null"
  | .bool b => .ok ("boolean `" ++ (if b then "true" else "false") ++ "`")
  | .number (.int n _) => .ok ("integer `" ++ Numeral.ofInt n ++ "`")
  | .number (.float bits _) => .ok ("floating point `" ++ Decimal.jsonText bits ++ "`")
  | .string s => .ok ("string " ++ Text.shown s)
  | .array .. => .ok "sequence"
  | .object .. => .ok "map"
  | .broken f => .error (.syntactic f)

/-- The fault of a document where a value of another type was wanted. -/
def mismatch (d : Document) (wanted : String) : Fault :=
  match d.describe with
  | .ok found => .wrongType found wanted
  | .error f => f

end Document

/-! ### Blanks and words -/

/-- Is the character a blank of JSON text? -/
def isJsonBlank (c : Char) : Bool := c = ' ' || c = '\n' || c = '\t' || c = '\r'

/-- The text behind leading blanks. -/
def skipBlanks (s : List Char) : List Char := s.dropWhile isJsonBlank

/-- The text behind the letters of a word. -/
def expectWord : List Char → List Char → Except Fault.Syntactic (List Char)
  | [], s => .ok s
  | _ :: _, [] => .error .eofInValue
  | w :: ws, c :: s => if w = c then expectWord ws s else .error .expectedIdent

/-! ### Values that nobody wants to know -/

/-- The brackets that may enclose a value. -/
inductive Bracket where
  | list | object
  deriving DecidableEq, Repr

/-- The text behind a scalar or behind the opening bracket, which is returned, of a value. -/
def passHead (s : List Char) : Except Fault.Syntactic (Option Bracket × List Char) :=
  match skipBlanks s with
  | [] => .error .eofInValue
  | 'n' :: r => (expectWord ['u', 'l', 'l'] r).map fun r => (none, r)
  | 't' :: r => (expectWord ['r', 'u', 'e'] r).map fun r => (none, r)
  | 'f' :: r => (expectWord ['a', 'l', 's', 'e'] r).map fun r => (none, r)
  | '"' :: r => (passString r).map fun r => (none, r)
  | '[' :: r => .ok (some .list, r)
  | '{' :: r => .ok (some .object, r)
  | c :: r =>
    if c = '-' || c.isDigit then (NumberText.pass (c :: r)).map fun r => (none, r)
    else .error .expectedValue

/-- The closing brackets behind a value, up to the place where the next one starts: the brackets
that are still open, and the text. -/
def passClosing (acceptComma : Bool) : List Bracket → List Char → Nat →
    Except Fault.Syntactic (List Bracket × List Char)
  | [], s, _ => .ok ([], s)
  | _, _, 0 => .error .tooDeep
  | b :: open_, s, fuel + 1 =>
    match b, skipBlanks s with
    | .list, [] => .error .eofInList
    | .object, [] => .error .eofInObject
    | .list, ']' :: r => passClosing true open_ r fuel
    | .object, '}' :: r => passClosing true open_ r fuel
    | b, ',' :: r =>
      if acceptComma then .ok (b :: open_, r)
      else .ok (b :: open_, ',' :: r)
    | .list, r => if acceptComma then .error .expectedListCommaOrEnd else .ok (.list :: open_, r)
    | .object, r =>
      if acceptComma then .error .expectedObjectCommaOrEnd else .ok (.object :: open_, r)

/-- The text behind the key and the colon of a member. -/
def passKey (s : List Char) : Except Fault.Syntactic (List Char) :=
  match skipBlanks s with
  | [] => .error .eofInObject
  | '"' :: r => do
    match skipBlanks (← passString r) with
    | ':' :: r => return r
    | [] => throw .eofInObject
    | _ => throw .expectedColon
  | _ => .error .keyNotString

/-- The text behind the values that are still to come inside some brackets. -/
def passWithin : Nat → List Bracket → List Char → Except Fault.Syntactic (List Char)
  | 0, _, _ => .error .tooDeep
  | fuel + 1, open_, s => do
    let (bracket, s) ← passHead s
    let open_' := match bracket with
      | some b => b :: open_
      | none => open_
    match ← passClosing bracket.isNone open_' s (s.length + 1) with
    | ([], s) => return s
    | (.object :: open_, s) => passWithin fuel (.object :: open_) (← passKey s)
    | (.list :: open_, s) => passWithin fuel (.list :: open_) s

/-- The text behind a value that is not read. -/
def passValue (s : List Char) : Except Fault.Syntactic (List Char) :=
  passWithin (s.length + 1) [] s

/-! ### Reading -/

/-- How many arrays and objects may be nested in each other. -/
def maxDepth : Nat := 127

namespace Document

/-- A word's value and the text behind it, or the fault of the word. -/
def ofWord (d : Document) (rest : Except Fault.Syntactic (List Char)) :
    Document × Option (List Char) :=
  match rest with
  | .ok r => (d, some r)
  | .error f => (.broken f, none)

mutual

/-- The value at the head of a text, under so much room for nesting, and the text behind it. -/
def readValue : (fuel room : Nat) → List Char → Document × Option (List Char)
  | 0, _, _ => (.broken .tooDeep, none)
  | fuel + 1, room, s =>
    match skipBlanks s with
    | [] => (.broken .eofInValue, none)
    | 'n' :: r => ofWord .null (expectWord ['u', 'l', 'l'] r)
    | 't' :: r => ofWord (.bool true) (expectWord ['r', 'u', 'e'] r)
    | 'f' :: r => ofWord (.bool false) (expectWord ['a', 'l', 's', 'e'] r)
    | '"' :: r =>
      match readString r with
      | .ok (cs, r) => (.string (String.ofList cs), some r)
      | .error f => (.broken f, none)
    | '[' :: r =>
      match room with
      | 0 => (.array [] .tooDeep, none)
      | room + 1 =>
        let (items, stop, rest) := readItems fuel room true r
        (.array items stop, rest)
    | '{' :: r =>
      match room with
      | 0 => (.object [] .tooDeep, none)
      | room + 1 =>
        let (members, stop, rest) := readMembers fuel room true r
        (.object members stop, rest)
    | c :: r =>
      if c = '-' || c.isDigit then
        match NumberText.read (c :: r) with
        | .ok (t, rest) =>
          match t.value with
          | some n => (.number n, some rest)
          | none => (.broken .numberOutOfRange, none)
        | .error f => (.broken f, none)
      else (.broken .expectedValue, none)

/-- The items of an array up to its end; the first one needs no comma. -/
def readItems : (fuel room : Nat) → (isFirst : Bool) → List Char →
    List Document × ArrayEnd × Option (List Char)
  | 0, _, _, _ => ([], .tooDeep, none)
  | fuel + 1, room, isFirst, s =>
    match skipBlanks s with
    | [] => ([], .unclosed, none)
    | ']' :: r => ([], .closed, some r)
    | c :: r =>
      if isFirst then readItem fuel room (c :: r)
      else if c = ',' then
        match skipBlanks r with
        | [] => ([], .unclosedComma, none)
        | ']' :: _ => ([], .trailingComma, none)
        | r => readItem fuel room r
      else ([], .stray, none)

/-- An item and those behind it. -/
def readItem : (fuel room : Nat) → List Char → List Document × ArrayEnd × Option (List Char)
  | 0, _, _ => ([], .tooDeep, none)
  | fuel + 1, room, s =>
    match readValue fuel room s with
    | (d, none) => ([d], .unclosed, none)
    | (d, some s) =>
      let (items, stop, rest) := readItems fuel room false s
      (d :: items, stop, rest)

/-- The members of an object up to its end; the first one needs no comma. -/
def readMembers : (fuel room : Nat) → (isFirst : Bool) → List Char →
    List Member × ObjectEnd × Option (List Char)
  | 0, _, _, _ => ([], .tooDeep, none)
  | fuel + 1, room, isFirst, s =>
    match skipBlanks s with
    | [] => ([], .unclosed, none)
    | '}' :: r => ([], .closed, some r)
    | c :: r =>
      if isFirst then
        if c = '"' then readMember fuel room r else ([], .strayKey, none)
      else if c = ',' then
        match skipBlanks r with
        | [] => ([], .unclosedComma, none)
        | '}' :: _ => ([], .trailingComma, none)
        | '"' :: r => readMember fuel room r
        | _ => ([], .strayKey, none)
      else ([], .stray, none)

/-- A member, whose opening quote is behind us, and those behind it. -/
def readMember : (fuel room : Nat) → List Char → List Member × ObjectEnd × Option (List Char)
  | 0, _, _ => ([], .tooDeep, none)
  | fuel + 1, room, s =>
    match readString s with
    | .error f => ([], .brokenKey f, none)
    | .ok (key, s) =>
      let key := String.ofList key
      let without (f : Fault.Syntactic) :=
        ([(key, .broken f, some (.syntactic f))], ObjectEnd.unclosed, none)
      match skipBlanks s with
      | [] => without .eofInObject
      | ':' :: s =>
        let (d, rest) := readValue fuel room s
        let next := match rest with
          | some s => Except.ok s
          | none => passValue s
        match next with
        | .error f => ([(key, d, some (.syntactic f))], .unclosed, none)
        | .ok s =>
          let (members, stop, rest) := readMembers fuel room false s
          ((key, d, none) :: members, stop, rest)
      | _ => without .expectedColon

end

/-- The document at the head of a text, and the text behind it if it has no fault. -/
def readChars (s : List Char) : Document × Option (List Char) :=
  readValue (3 * s.length + 3) maxDepth s

/-- The document of a text, and the fault behind it, if something stands there. -/
def read (s : String) : Document × Option Fault :=
  let (d, rest) := readChars s.toList
  let surplus := match rest with
    | some r => !(skipBlanks r).isEmpty
    | none => false
  (d, if surplus then some (.syntactic .trailingCharacters) else none)

/-! ### Documents of values -/

mutual

/-- The document of a value. -/
def ofJson : Json → Document
  | .null => .null
  | .bool b => .bool b
  | .number n => .number n
  | .string s => .string s
  | .array items => .array (ofItems items) .closed
  | .object members => .object (ofMembers members) .closed

/-- The documents of some values. -/
def ofItems : List Json → List Document
  | [] => []
  | item :: rest => ofJson item :: ofItems rest

/-- The members of a document of an object. -/
def ofMembers : List (String × Json) → List Member
  | [] => []
  | (key, value) :: rest => (key, ofJson value, none) :: ofMembers rest

end

end Document

end LeasedStore.Json
