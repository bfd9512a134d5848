/-
Characters out of bytes, in UTF-8.

* `Utf8.head`: the character at the head of some bytes, or how many of them are no character;
* `Utf8.decode`: the characters of bytes, or the first flaw in them;
* `Utf8.decodeLossy`: the characters of bytes, flaws being replaced.
-/
namespace LeasedStore.Text.Utf8

/-- Some bytes that are no character. -/
structure Flaw where
  index : Nat
  /-- The number of the bytes; none if bytes are missing at the end. -/
  length : Option Nat
  deriving DecidableEq, Repr

/-- The wording of a flaw. -/
def Flaw.message (f : Flaw) : String :=
  match f.length with
  | some n =>
    "invalid utf-8 sequence of " ++ Nat.repr n ++ " bytes from index " ++ Nat.repr f.index
  | none => "incomplete utf-8 byte sequence from index " ++ Nat.repr f.index

/-- What has to follow a byte: so many more bytes, the first of them within a range. -/
structure Tail where
  count : Nat
  low : Nat
  high : Nat
  deriving DecidableEq, Repr

/-- What has to follow a leading byte, if it is one. -/
def tail? (b : Nat) : Option Tail :=
  if b < 0x80 then some ⟨0, 0x80, 0xBF⟩
  else if 0xC2 ≤ b ∧ b < 0xE0 then some ⟨1, 0x80, 0xBF⟩
  else if b = 0xE0 then some ⟨2, 0xA0, 0xBF⟩
  else if b = 0xED then some ⟨2, 0x80, 0x9F⟩
  else if 0xE0 < b ∧ b < 0xF0 then some ⟨2, 0x80, 0xBF⟩
  else if b = 0xF0 then some ⟨3, 0x90, 0xBF⟩
  else if 0xF0 < b ∧ b < 0xF4 then some ⟨3, 0x80, 0xBF⟩
  else if b = 0xF4 then some ⟨3, 0x80, 0x8F⟩
  else none

/-- The bits of a leading byte that count. -/
def leadBits (b : Nat) : Nat :=
  if b < 0x80 then b else if b < 0xE0 then b % 32 else if b < 0xF0 then b % 16 else b % 8

/-- The code point of what was seen and so many more bytes, and the bytes behind them; or the number
of bytes that are no character, none if bytes are missing. -/
def readTail (value seen : Nat) : Nat → (low high : Nat) → List Nat →
    Except (Option Nat) (Nat × List Nat)
  | 0, _, _, rest => .ok (value, rest)
  | _ + 1, _, _, [] => .error none
  | n + 1, low, high, b :: rest =>
    if low ≤ b ∧ b ≤ high then readTail (value * 64 + b % 64) (seen + 1) n 0x80 0xBF rest
    else .error (some seen)

/-- The character that starts with a byte, and the bytes behind it; or the number of bytes that are
no character, none if bytes are missing. -/
def head (b : Nat) (rest : List Nat) : Except (Option Nat) (Char × List Nat) :=
  match tail? b with
  | none => .error (some 1)
  | some t => (readTail (leadBits b) 1 t.count t.low t.high rest).map fun r => (Char.ofNat r.1, r.2)

/-- The characters of at most so many, from some index on. -/
def decodeFrom : Nat → Nat → List Nat → Except Flaw (List Char)
  | 0, _, _ => .ok []
  | _, _, [] => .ok []
  | n + 1, index, b :: rest =>
    match head b rest with
    | .error length => .error ⟨index, length⟩
    | .ok (c, behind) =>
      (decodeFrom n (index + (1 + rest.length - behind.length)) behind).map (c :: ·)

/-- The characters of some bytes, or the first flaw. -/
def decode (bytes : List Nat) : Except Flaw (List Char) := decodeFrom bytes.length 0 bytes

/-- The character that stands for a flaw. -/
def replacement : Char := '\uFFFD'

/-- The characters of at most so many, flaws being replaced. -/
def replaceFlaws : Nat → List Nat → List Char
  | 0, _ => []
  | _, [] => []
  | n + 1, b :: rest =>
    match head b rest with
    | .ok (c, behind) => c :: replaceFlaws n behind
    | .error none => [replacement]
    | .error (some k) => replacement :: replaceFlaws n ((b :: rest).drop k)

/-- The characters of some bytes, every flaw being replaced. -/
def decodeLossy (bytes : List Nat) : List Char := replaceFlaws bytes.length bytes

end LeasedStore.Text.Utf8
