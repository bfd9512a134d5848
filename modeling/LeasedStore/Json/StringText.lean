/-
Strings in JSON text.

* `readString`: the characters up to the closing quote, escapes resolved, and the text behind it;
* `passString`: the text behind the closing quote of a string that nobody wants to know, where
  escapes are only looked at one by one.
-/
import LeasedStore.Json.Fault

namespace LeasedStore.Json

/-- The value of a hexadecimal digit. -/
def hexValue? (c : Char) : Option Nat :=
  if c.isDigit then some (c.toNat - '0'.toNat)
  else if 'a' ≤ c ∧ c ≤ 'f' then some (c.toNat - 'a'.toNat + 10)
  else if 'A' ≤ c ∧ c ≤ 'F' then some (c.toNat - 'A'.toNat + 10)
  else none

/-- The value of four hexadecimal digits. -/
def hexWord? (a b c d : Char) : Option Nat := do
  return ((← hexValue? a) * 16 + (← hexValue? b)) * 256 + (← hexValue? c) * 16 + (← hexValue? d)

/-- What is wrong with a text that does not start with four hexadecimal digits. -/
def hexFault (s : List Char) : Fault.Syntactic :=
  if (String.ofList s).utf8ByteSize < 4 then .eofInString else .invalidEscape

/-- The character of a one-letter escape. -/
def escapedChar? (c : Char) : Option Char :=
  match c with
  | '"' => some '"'
  | '\\' => some '\\'
  | '/' => some '/'
  | 'b' => some '\x08'
  | 'f' => some '\x0c'
  | 'n' => some '\n'
  | 'r' => some '\r'
  | 't' => some '\t'
  | _ => none

/-- Is the word the first half of a surrogate pair? -/
def isHighSurrogate (n : Nat) : Bool := 0xD800 ≤ n && n ≤ 0xDBFF

/-- Is the word the second half of a surrogate pair? -/
def isLowSurrogate (n : Nat) : Bool := 0xDC00 ≤ n && n ≤ 0xDFFF

/-- A character in front of what was read behind it. -/
def consChar (c : Char) (r : Except Fault.Syntactic (List Char × List Char)) :
    Except Fault.Syntactic (List Char × List Char) :=
  r.map fun p => (c :: p.1, p.2)

/-- The characters of a string up to its closing quote, and the text behind it. -/
def readString : List Char → Except Fault.Syntactic (List Char × List Char)
  | [] => .error .eofInString
  | '"' :: rest => .ok ([], rest)
  | '\\' :: rest =>
    match rest with
    | [] => .error .eofInString
    | 'u' :: a :: b :: c :: d :: rest =>
      match hexWord? a b c d with
      | none => .error (hexFault (a :: b :: c :: d :: rest))
      | some n =>
        if isLowSurrogate n then .error .loneSurrogate
        else if isHighSurrogate n then
          match rest with
          | [] => .error .eofInString
          | '\\' :: 'u' :: a :: b :: c :: d :: rest =>
            match hexWord? a b c d with
            | none => .error (hexFault (a :: b :: c :: d :: rest))
            | some m =>
              if isLowSurrogate m then
                consChar (Char.ofNat ((n - 0xD800) * 0x400 + (m - 0xDC00) + 0x10000))
                  (readString rest)
              else .error .loneSurrogate
          | ['\\'] => .error .eofInString
          | '\\' :: 'u' :: rest => .error (hexFault rest)
          | _ => .error .unfinishedSurrogate
        else consChar (Char.ofNat n) (readString rest)
    | 'u' :: rest => .error (hexFault rest)
    | c :: rest =>
      match escapedChar? c with
      | some e => consChar e (readString rest)
      | none => .error .invalidEscape
  | c :: rest =>
    if c.toNat < 0x20 then .error .controlCharacter else consChar c (readString rest)

/-- The text behind the closing quote of a string, whatever its escapes stand for. -/
def passString : List Char → Except Fault.Syntactic (List Char)
  | [] => .error .eofInString
  | '"' :: rest => .ok rest
  | '\\' :: rest =>
    match rest with
    | [] => .error .eofInString
    | 'u' :: a :: b :: c :: d :: rest =>
      match hexWord? a b c d with
      | none => .error (hexFault (a :: b :: c :: d :: rest))
      | some _ => passString rest
    | 'u' :: rest => .error (hexFault rest)
    | c :: rest =>
      match escapedChar? c with
      | some _ => passString rest
      | none => .error .invalidEscape
  | c :: rest => if c.toNat < 0x20 then .error .controlCharacter else passString rest

end LeasedStore.Json
