/-
Numbers of JSON5 documents.

* `Number`: a decimal number as it is written, or a hexadecimal integer;
* `Number.read?`: the number at the head of a text, infinities included;
* `Number.chars`: the number in JSON;
* `Number.text?`: the number as a column of texts takes it over.
-/
import LeasedStore.Decimal.Written
import LeasedStore.Json5.Quoted

namespace LeasedStore.Json5

/-- A number: a decimal one as it is written, without a plus sign, or a hexadecimal integer. -/
inductive Number where
  | decimal (raw : List Char)
  | hexadecimal (negative : Bool) (digits : List Char)
  deriving DecidableEq, Repr

namespace Number

/-! ### Reading -/

/-- The text behind a word, whose letters may be small or capital. -/
def behindWord? : List Char → List Char → Option (List Char)
  | [], s => some s
  | _ :: _, [] => none
  | w :: ws, c :: s => if c.toLower = w then behindWord? ws s else none

/-- An infinity, as a number that is too large. -/
def infinite (negative : Bool) : Number :=
  .decimal ((if negative then ['-'] else []) ++ "9e999".toList)

/-- The text behind the name of the infinity, long or short. -/
def behindInfinity? (s : List Char) : Option (List Char) := do
  let rest ← behindWord? "inf".toList s
  return (behindWord? "inity".toList rest).getD rest

/-- The digits and the point of a decimal number, and the text behind them; on one side of the point
digits may be missing. -/
def readMantissa? (s : List Char) : Option (List Char × List Char) :=
  let whole := s.takeWhile Char.isDigit
  let rest := s.dropWhile Char.isDigit
  match rest with
  | '.' :: r =>
    let fraction := r.takeWhile Char.isDigit
    if whole.isEmpty && fraction.isEmpty then none
    else some (whole ++ '.' :: fraction, r.dropWhile Char.isDigit)
  | _ => if whole.isEmpty then none else some (whole, rest)

/-- The exponent of a decimal number, where there is one, and the text behind it. -/
def readExponent? : List Char → Option (List Char × List Char)
  | [] => some ([], [])
  | c :: r =>
    if c = 'e' ∨ c = 'E' then
      let sign := r.takeWhile (fun d => d = '+' || d = '-') |>.take 1
      let digits := (r.drop sign.length).takeWhile Char.isDigit
      if digits.isEmpty then none
      else some (c :: (sign ++ digits), (r.drop sign.length).dropWhile Char.isDigit)
    else some ([], c :: r)

/-- The number behind a sign, and the text behind it. -/
def readMagnitude? (negative : Bool) (s : List Char) : Option (Number × List Char) :=
  let decimal : Option (Number × List Char) := do
    let (mantissa, s) ← readMantissa? s
    let (exponent, s) ← readExponent? s
    return (.decimal ((if negative then ['-'] else []) ++ mantissa ++ exponent), s)
  match s with
  | '0' :: x :: d :: r =>
    if (x = 'x' ∨ x = 'X') ∧ isHexDigit d then
      some (.hexadecimal negative ((d :: r).takeWhile isHexDigit), r.dropWhile isHexDigit)
    else if x.isDigit then none
    else decimal
  | ['0', d] => if d.isDigit then none else decimal
  | _ => decimal

/-- The number at the head of a text, and the text behind it. -/
def read? : List Char → Option (Number × List Char)
  | [] => none
  | c :: s =>
    if c = '+' ∨ c = '-' then
      match behindInfinity? s with
      | some rest => some (infinite (c = '-'), rest)
      | none => readMagnitude? (c = '-') s
    else readMagnitude? false (c :: s)

/-! ### The number in JSON -/

/-- The digits without zeros in front. -/
def significant (digits : List Char) : List Char := digits.dropWhile (· = '0')

/-- Does a hexadecimal integer fit into a word of 64 bits? -/
def fitsWord (digits : List Char) : Bool := (significant digits).length ≤ 16

/-- A decimal number with a zero on each side of its point where digits are missing. -/
def padded : (isFirst : Bool) → List Char → List Char
  | _, [] => []
  | isFirst, c :: rest =>
    if c = '.' then
      (if isFirst then ['0'] else []) ++ '.' ::
        ((if (rest.head?.map Char.isDigit).getD false then [] else ['0']) ++ padded false rest)
    else c :: padded (c = '-') rest

/-- The number in JSON; an integer that fits no word counts as infinite. -/
def chars : Number → List Char
  | decimal raw => padded true raw
  | hexadecimal negative digits =>
    (if negative then ['-'] else []) ++
      if fitsWord digits then (Numeral.ofNat (Quoted.hexNumber digits)).toList
      else "9.0e999".toList

/-! ### The number in a column of texts -/

/-- The text of a number: that of a signed word or of a real number.  Hexadecimal digits are the
bits of the word; too many of them are no number. -/
def text? : Number → Option String
  | decimal raw => do
    let w ← Decimal.Written.read? raw
    match w.integer? with
    | some n => return Numeral.ofInt64 n
    | none => return w.real.text
  | hexadecimal negative digits =>
    if fitsWord digits then
      let n := (Quoted.hexNumber digits).toUInt64.toInt64
      some (Numeral.ofInt64 (if negative then -n else n))
    else none

end Number

end LeasedStore.Json5
