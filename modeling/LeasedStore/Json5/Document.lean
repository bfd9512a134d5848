/-
Reading documents of JSON5.

* `Json5.readWord?`: the values that are written as words;
* `Json5.readName?`: a key without quotes;
* `Json5.ofText?`: the document of a text, which ends at its first NUL.
-/
import LeasedStore.Json5.Basic
import LeasedStore.Json5.Blank

namespace LeasedStore.Json5

/-! ### Words -/

/-- The text behind a word that is written exactly so. -/
def behindExactly? : List Char → List Char → Option (List Char)
  | [], s => some s
  | _ :: _, [] => none
  | w :: ws, c :: s => if c = w then behindExactly? ws s else none

/-- The text behind a word, if the word does not go on in it. -/
def atWordEnd (s : List Char) : Option (List Char) :=
  if (s.head?.map Char.isAlphanum).getD false then none else some s

/-- The value of a word at the head of a text, and the text behind it: the words of JSON, an
infinity, and what is no number, which counts as null. -/
def readWord? (s : List Char) : Option (Json5 × List Char) :=
  let exactly (w : String) (j : Json5) := do return (j, ← atWordEnd (← behindExactly? w.toList s))
  let loosely (w : String) (j : Json5) :=
    do return (j, ← atWordEnd (← Number.behindWord? w.toList s))
  [exactly "true" (.bool true), exactly "false" (.bool false), exactly "null" .null,
    loosely "inf" (.number (.infinite false)), loosely "infinity" (.number (.infinite false)),
    loosely "nan" .null, loosely "qnan" .null, loosely "snan" .null].findSome? id

/-! ### Keys without quotes -/

/-- May a name start with the character? -/
def isNameStart (c : Char) : Bool := c.isAlpha || c = '$' || c = '_' || 0x80 ≤ c.toNat

/-- May a name go on with the character? -/
def isNamePart (c : Char) : Bool := (isNameStart c || c.isDigit) && !isBlank c

/-- The rest of a name, and the text behind it. -/
def readNameRest : List Char → Quoted × List Char
  | [] => (⟨.plain, []⟩, [])
  | '\\' :: 'u' :: a :: b :: c :: d :: rest =>
    if [a, b, c, d].all isHexDigit then
      let (name, rest) := readNameRest rest
      (⟨.escaped, ['\\', 'u', a, b, c, d] ++ name.raw⟩, rest)
    else (⟨.plain, []⟩, '\\' :: 'u' :: a :: b :: c :: d :: rest)
  | c :: rest =>
    if isNamePart c then
      let (name, rest) := readNameRest rest
      (⟨name.style, c :: name.raw⟩, rest)
    else (⟨.plain, []⟩, c :: rest)

/-- A name at the head of a text, and the text behind it. -/
def readName? (s : List Char) : Option (Quoted × List Char) :=
  let isStart := match s with
    | '\\' :: _ => true
    | c :: _ => isNameStart c
    | [] => false
  let (name, rest) := readNameRest s
  if isStart && !name.raw.isEmpty then some (name, rest) else none

/-- The string at the head of a text, between quotes of either kind. -/
def readString? : List Char → Option (Quoted × List Char)
  | c :: rest => if c = '"' ∨ c = '\'' then Quoted.read? c rest else none
  | [] => none

/-- The key of a member, between quotes or without them; a word that is a value is no key. -/
def readKey? (s : List Char) : Option (Quoted × List Char) :=
  match readString? s with
  | some r => some r
  | none => if (readWord? s).isSome then none else readName? s

/-! ### Documents -/

/-- How many arrays and objects may be nested in each other. -/
def maxDepth : Nat := 1000

mutual

/-- The value at the head of a text, under so much room for nesting, and the text behind it. -/
def readValue : (fuel room : Nat) → List Char → Option (Json5 × List Char)
  | 0, _, _ => none
  | fuel + 1, room, s =>
    match skipBlanks s, room with
    | '[' :: _, 0 => none
    | '{' :: _, 0 => none
    | '[' :: r, room + 1 => (readItems fuel room r).map fun p => (.array p.1, p.2)
    | '{' :: r, room + 1 => (readMembers fuel room r).map fun p => (.object p.1, p.2)
    | s, _ =>
      match readString? s with
      | some (q, r) => some (.string q, r)
      | none =>
        match readWord? s with
        | some r => some r
        | none => (Number.read? s).map fun p => (.number p.1, p.2)

/-- The items of an array up to its end; a comma may stand behind the last one. -/
def readItems : (fuel room : Nat) → List Char → Option (List Json5 × List Char)
  | 0, _, _ => none
  | fuel + 1, room, s =>
    match skipBlanks s with
    | ']' :: r => some ([], r)
    | s => do
      let (item, s) ← readValue fuel room s
      match skipBlanks s with
      | ']' :: r => return ([item], r)
      | ',' :: r => do
        let (items, r) ← readItems fuel room r
        return (item :: items, r)
      | _ => none

/-- The members of an object up to its end; a comma may stand behind the last one. -/
def readMembers : (fuel room : Nat) → List Char → Option (List (Quoted × Json5) × List Char)
  | 0, _, _ => none
  | fuel + 1, room, s =>
    match skipBlanks s with
    | '}' :: r => some ([], r)
    | s => do
      let (key, s) ← readKey? s
      match skipBlanks s with
      | ':' :: s => do
        let (value, s) ← readValue fuel room s
        match skipBlanks s with
        | '}' :: r => return ([(key, value)], r)
        | ',' :: r => do
          let (members, r) ← readMembers fuel room r
          return ((key, value) :: members, r)
        | _ => none
      | _ => none

end

/-- The document of a text, which ends at its first NUL. -/
def ofText? (text : String) : Option Json5 := do
  let s := text.toList.takeWhile (· ≠ '\x00')
  let (j, rest) ← readValue (2 * s.length + 2) maxDepth s
  if (skipBlanks rest).isEmpty then some j else none

end LeasedStore.Json5
