/-
Percent signs in addresses: two hexadecimal digits behind one stand for a byte.

* `Percent.decode`: the bytes that are meant;
* `Percent.encode`: bytes other than letters and digits behind percent signs;
* `Percent.formDecode`, `Percent.formEncode`: the same for the values of forms, in which a plus sign
  stands for a blank.
-/
import LeasedStore.Json.StringText
import LeasedStore.Text.Codes

namespace LeasedStore.Text.Percent

/-- The byte of two hexadecimal digits, given as bytes. -/
def hexPair? (high low : Nat) : Option Nat := do
  return (← Json.hexValue? (Char.ofNat high)) * 16 + (← Json.hexValue? (Char.ofNat low))

/-- The bytes that are meant; a percent sign without digits behind it stands for itself. -/
def decode : List Nat → List Nat
  | b :: high :: low :: rest =>
    match if b = '%'.toNat then hexPair? high low else none with
    | some byte => byte :: decode rest
    | none => b :: decode (high :: low :: rest)
  | rest => rest

/-- The digit of a number below sixteen, a capital letter from ten on. -/
def hexDigit (n : Nat) : Nat := if n < 10 then '0'.toNat + n else 'A'.toNat + (n - 10)

/-- A byte behind a percent sign. -/
def escape (b : Nat) : List Nat := ['%'.toNat, hexDigit (b / 16), hexDigit (b % 16)]

/-- Is the byte a letter or a digit? -/
def isPlain (b : Nat) : Bool := b < 0x80 && (Char.ofNat b).isAlphanum

/-- Bytes, of which only letters and digits stand for themselves. -/
def encode (bytes : List Nat) : List Nat :=
  bytes.flatMap fun b => if isPlain b then [b] else escape b

/-- The bytes of a value of a form. -/
def formDecode (bytes : List Nat) : List Nat :=
  decode (bytes.map fun b => if b = '+'.toNat then ' '.toNat else b)

/-- Bytes as a value of a form. -/
def formEncode (bytes : List Nat) : List Nat :=
  bytes.flatMap fun b =>
    if b = ' '.toNat then ['+'.toNat]
    else if isPlain b || (Text.bytes ['*', '-', '.', '_']).contains b then [b]
    else escape b

end LeasedStore.Text.Percent
