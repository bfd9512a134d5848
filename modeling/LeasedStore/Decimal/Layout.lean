/-
How a decimal number is laid out as text: with a point among its digits, or with an exponent.

* `Layout`: the decisions of one format;
* `Layout.write`: the text of a signed decimal under a layout;
* `Layout.json`: the numbers of JSON text;
* `Layout.column`: the numbers that a database column of text takes over from a real one.
-/
import LeasedStore.Decimal.Shortest

namespace LeasedStore.Decimal

/-- The decisions by which two formats of numbers differ. -/
structure Layout where
  /-- The least exponent of the leading digit that is written with a point. -/
  leastPositional : Int
  /-- The greatest exponent of the leading digit that is written with a point. -/
  greatestPositional : Int
  /-- Does a single digit in front of an exponent get `.0` behind it? -/
  pointInMantissa : Bool
  /-- Does an exponent that is not negative get a plus sign? -/
  plusInExponent : Bool
  /-- The least number of digits of an exponent. -/
  exponentDigits : Nat
  /-- Does a zero keep its minus sign? -/
  signedZero : Bool
  deriving DecidableEq, Repr

namespace Layout

/-- JSON text writes a point from `1e-5` up to below `1e16`, and signed exponents as short as can
be. -/
def json : Layout where
  leastPositional := -5
  greatestPositional := 15
  pointInMantissa := false
  plusInExponent := true
  exponentDigits := 1
  signedZero := true

/-- A text column has a point from `1e-4` up to below `1e15`, and signed exponents of two digits. -/
def column : Layout where
  leastPositional := -4
  greatestPositional := 14
  pointInMantissa := true
  plusInExponent := true
  exponentDigits := 2
  signedZero := false

/-- A numeral padded with zeros in front. -/
def padded (width n : Nat) : String :=
  let ds := Nat.repr n
  String.ofList (List.replicate (width - ds.length) '0') ++ ds

/-- The digits with a point among them, at least one digit on either side of it. -/
def positional (s : Scientific) : String :=
  let ds := Nat.toDigits 10 s.digits
  if 0 ≤ s.exponent then
    String.ofList (ds ++ List.replicate s.exponent.toNat '0') ++ ".0"
  else
    let places := (-s.exponent).toNat
    if places < ds.length then
      String.ofList (ds.take (ds.length - places)) ++ "." ++
        String.ofList (ds.drop (ds.length - places))
    else
      "0." ++ String.ofList (List.replicate (places - ds.length) '0' ++ ds)

/-- The exponent of the leading digit. -/
def leadingExponent (s : Scientific) : Int :=
  s.exponent + (Nat.toDigits 10 s.digits).length - 1

/-- One digit, the others behind a point, and the exponent of the leading digit. -/
def exponential (l : Layout) (s : Scientific) : String :=
  let e := leadingExponent s
  let mantissa :=
    match Nat.toDigits 10 s.digits with
    | [] => ""
    | [d] => String.ofList [d] ++ (if l.pointInMantissa then ".0" else "")
    | d :: rest => String.ofList (d :: '.' :: rest)
  let sign := if e < 0 then "-" else if l.plusInExponent then "+" else ""
  mantissa ++ "e" ++ sign ++ padded l.exponentDigits e.natAbs

/-- The text of a signed decimal. -/
def write (l : Layout) (negative : Bool) (s : Scientific) : String :=
  let sign := if negative && (s.digits ≠ 0 || l.signedZero) then "-" else ""
  if s.digits = 0 then sign ++ "0.0"
  else
    let e := leadingExponent s
    sign ++ (if l.leastPositional ≤ e && e ≤ l.greatestPositional then positional s
      else l.exponential s)

end Layout

/-- The JSON text of a finite number: its shortest decimal. -/
def jsonText (bits : UInt64) : String :=
  let x := Binary64.ofBits bits
  Layout.json.write x.negative (if x.significand = 0 then ⟨0, 0⟩ else shortest x)

end LeasedStore.Decimal
