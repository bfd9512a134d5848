/-
Which member of an object a key of a path names.

Keys are compared by what they stand for.  Where a backslash occurs on either side, escapes are
resolved on both of them as far as they can be, byte by byte and without a look at whether digits
are digits, and the comparison ends at the first NUL.

* `Label.hexDigit`, `Label.hexNumber`: the value of bytes that ought to be hexadecimal digits;
* `Label.codes`: the code points that the bytes of a key stand for;
* `Label.isSame`: do two keys stand for the same?
* `Json5.member?`: the first member of a name.
-/
import LeasedStore.Json5.Basic

namespace LeasedStore.Json5

open Text (Codes isHighSurrogate isLowSurrogate joinSurrogates)

namespace Label

/-- The value of a byte as a hexadecimal digit, whatever byte it is. -/
def hexDigit (b : Nat) : Nat := (b + b / 64 % 2 * 9) % 16

/-- The value of some bytes as hexadecimal digits. -/
def hexNumber (bytes : List Nat) : Nat := bytes.foldl (fun n b => n * 16 + hexDigit b) 0

/-- The character that starts at the head of some bytes, and the bytes behind it. -/
def decode : List Nat → Nat × List Nat
  | [] => (0, [])
  | b :: rest =>
    if b < 0xC0 then (b, rest)
    else
      let room := rest.take 3
      let tail := room.takeWhile fun t => 0x80 ≤ t && t < 0xC0
      let head := if b < 0xE0 then b % 32 else if b < 0xF0 then b % 16 else b % 8
      (tail.foldl (fun n t => n * 64 + t % 64) head, rest.drop tail.length)

/-- The bytes behind the ends of lines that go on. -/
def behindJoints : List Nat → List Nat
  | 92 :: 10 :: rest => behindJoints rest
  | 92 :: 13 :: 10 :: rest => behindJoints rest
  | 92 :: 13 :: rest => behindJoints rest
  | 92 :: 0xE2 :: 0x80 :: 0xA8 :: rest => behindJoints rest
  | 92 :: 0xE2 :: 0x80 :: 0xA9 :: rest => behindJoints rest
  | rest => rest

/-- The code point of an escape by one letter, itself being given by its byte. -/
def letter? (b : Nat) : Option Nat :=
  let c := Char.ofNat b
  if c = 'v' then some 0xB
  else if c = '0' then some 0
  else if c = '\'' then some b
  else (Json.escapedChar? c).map Char.toNat

/-- The code point of an escape that starts behind a backslash, other than the end of a line, and
the bytes behind it; a damaged one stands for what is no character. -/
def escape : List Nat → Nat × List Nat
  | [] => (Quoted.noCharacter, [])
  | b :: rest =>
    if b = 'u'.toNat then
      if rest.length < 4 then (Quoted.noCharacter, [])
      else
        let high := hexNumber (rest.take 4)
        let behind := rest.drop 4
        let low := hexNumber ((behind.drop 2).take 4)
        if isHighSurrogate high && 6 ≤ behind.length && behind.take 2 = Text.bytes ['\\', 'u'] &&
            isLowSurrogate low then
          (joinSurrogates high low, behind.drop 6)
        else (high, behind)
    else if b = 'x'.toNat then
      if rest.length < 2 then (Quoted.noCharacter, [])
      else (hexNumber (rest.take 2), rest.drop 2)
    else
      match letter? b with
      | some n => (n, rest)
      | none => (Quoted.noCharacter, rest)

/-- The code point at the head of a key, and the bytes behind it. -/
def head : List Nat → Nat × List Nat
  | 92 :: rest =>
    match behindJoints (92 :: rest) with
    | [] => (0, [])
    | 92 :: behind =>
      match behind with
      | b :: _ =>
        if b = 10 ∨ b = 13 ∨ b = 0xE2 then (Quoted.noCharacter, [])
        else escape behind
      | [] => (Quoted.noCharacter, [])
    | behind => decode behind
  | bytes => decode bytes

/-- The code points of a key up to the first NUL, at most so many. -/
def codesUpTo : Nat → List Nat → Codes
  | 0, _ => []
  | _, [] => []
  | n + 1, bytes =>
    let (code, rest) := head bytes
    if code = 0 then [] else code :: codesUpTo n rest

/-- The code points that the bytes of a key stand for, up to the first NUL. -/
def codes (bytes : List Nat) : Codes := codesUpTo bytes.length bytes

/-- Do a key of a path and one of a document stand for the same? -/
def isSame (label : List Char) (key : Quoted) : Bool :=
  if key.style = .plain && !label.contains '\\' then label = key.raw
  else
    let side (isRaw : Bool) (cs : List Char) : Codes :=
      if isRaw then Text.codes cs |>.takeWhile (· ≠ 0) else codes (Text.bytes cs)
    side (!label.contains '\\') label = side (key.style = .plain) key.raw

end Label

/-- The first member of an object that a key of a path names. -/
def member? (label : List Char) : Json5 → Option Json5
  | object members => (members.find? fun m => Label.isSame label m.1).map Prod.snd
  | _ => none

end LeasedStore.Json5
