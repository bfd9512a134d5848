/-
Decimal numbers as they are written in text.

* `Written`: the parts of a written number;
* `Written.read?`: the parts of a text, blanks around it aside; digits may be missing on one side of
  the point;
* `Written.integer?`: the signed word that is written without point and exponent;
* `Written.real`: the real number that is written, computed with 64 significant bits, so that the
  result need not be the nearest one.
-/
import LeasedStore.Decimal.Real

namespace LeasedStore.Decimal

/-- The parts of a written number. -/
structure Written where
  negative : Bool
  whole : List Char
  /-- The digits behind the point, where there is a point. -/
  fraction : Option (List Char)
  /-- Is the sign of the exponent a minus, and its digits. -/
  exponent : Option (Bool × List Char)
  deriving DecidableEq, Repr

namespace Written

/-! ### Reading -/

/-- Is the character one of the blanks that may stand around a numeral? -/
def isBlank (c : Char) : Bool := c = ' ' || ('\t' ≤ c && c ≤ '\r')

/-- Is there a minus sign at the head, and what stands behind a sign of either kind. -/
def readSign : List Char → Bool × List Char
  | '-' :: r => (true, r)
  | '+' :: r => (false, r)
  | s => (false, s)

/-- The leading digits and the rest. -/
def spanDigits (s : List Char) : List Char × List Char :=
  (s.takeWhile Char.isDigit, s.dropWhile Char.isDigit)

/-- The digits behind a point, where there is one, and the rest. -/
def readFraction : List Char → Option (List Char) × List Char
  | '.' :: r => (some (spanDigits r).1, (spanDigits r).2)
  | s => (none, s)

/-- The exponent, where there is one, and the rest; it has at least one digit. -/
def readExponent? : List Char → Option (Option (Bool × List Char) × List Char)
  | [] => some (none, [])
  | c :: r =>
    if c = 'e' ∨ c = 'E' then
      let (negative, r) := readSign r
      let (digits, rest) := spanDigits r
      if digits.isEmpty then none else some (some (negative, digits), rest)
    else some (none, c :: r)

/-- The number that a text is, blanks around it aside. -/
def read? (s : List Char) : Option Written := do
  let (negative, s) := readSign (s.dropWhile isBlank)
  let (whole, s) := spanDigits s
  let (fraction, s) := readFraction s
  let (exponent, s) ← readExponent? s
  if s.all isBlank ∧ ¬ (whole ++ fraction.getD []).isEmpty then
    some ⟨negative, whole, fraction, exponent⟩
  else none

/-! ### The value -/

/-- The signed word that is written without point and exponent. -/
def integer? (w : Written) : Option Int64 :=
  if w.fraction.isNone ∧ w.exponent.isNone then
    let n : Int := Nat.ofDigitChars 10 w.whole 0
    Numeral.fitInt64? (if w.negative then -n else n)
  else none

/-- A significand that has reached this number takes no more digits. -/
def fullSignificand : Nat := (UInt64.size - 1 - 9) / 10

/-- A significand with one more digit. -/
def appendDigit (significand : Nat) (c : Char) : Nat :=
  significand * 10 + (c.toNat - '0'.toNat)

/-- A significand with the digits of a whole part as long as it is not full, and how many digits
were left. -/
def takeWhole (significand : Nat) : List Char → Nat × Nat
  | [] => (significand, 0)
  | c :: rest =>
    let next := appendDigit significand c
    if fullSignificand ≤ next then (next, rest.length) else takeWhole next rest

/-- A significand with the digits of a fraction as long as it is not full, and how many were taken.
-/
def takeFraction (significand : Nat) : List Char → Nat × Nat
  | [] => (significand, 0)
  | c :: rest =>
    if significand < fullSignificand then
      let (s, n) := takeFraction (appendDigit significand c) rest
      (s, n + 1)
    else (significand, 0)

/-- The magnitude of an exponent; large ones are not told apart. -/
def exponentSize (digits : List Char) : Nat :=
  digits.foldl (fun e c => if e < 10000 then appendDigit e c else 10000) 0

/-- The exponent that is written. -/
def exponentValue (w : Written) : Int :=
  match w.exponent with
  | none => 0
  | some (negative, digits) =>
    if negative then -(exponentSize digits : Int) else exponentSize digits

/-- A significand that is less than this has room for one more zero. -/
def roomyLimit : Nat := (UInt64.size - 1 - 2047) / 10

/-- A significand that takes over as many powers of ten as it has room for. -/
def absorb : Nat → Nat → Int → Nat × Int
  | 0, s, e => (s, e)
  | fuel + 1, s, e =>
    if 0 < e ∧ s < roomyLimit then absorb fuel (s * 10) (e - 1)
    else if e < 0 ∧ s % 10 = 0 then absorb fuel (s / 10) (e + 1)
    else (s, e)

/-- The real number that is written. -/
def real (w : Written) : RealNumber :=
  let (s, skipped) := takeWhole 0 w.whole
  let (s, places) := takeFraction s (w.fraction.getD [])
  if s = 0 then .ofExtended w.negative ⟨0, 0⟩
  else
    let (s, e) := absorb 20 s (w.exponentValue + skipped - places)
    .ofExtended w.negative (if e = 0 then ⟨s, 0⟩ else (Extended.ofNat s).timesTenTo e)

end Written

end LeasedStore.Decimal
