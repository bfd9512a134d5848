/-
The shortest decimal number that reads back as a given binary one.

* `readsBackAs`: the interval of the decimals that round to the number, ends included where the
  significand is even;
* `candidate?`: on the grid of decimals with `n` digits, the neighbour of the number that lies in
  the interval, the nearer one of two, the even one of two at equal distance;
* `shortest`: the candidate of the coarsest grid that has one.
-/
import LeasedStore.Decimal.Binary

namespace LeasedStore.Decimal

/-- Does the decimal `d · 10 ^ e` round to the number? -/
def readsBackAs (x : Binary64) (d : Nat) (e : Int) : Bool :=
  -- both sides are measured in quarters of a unit in the last place
  let u := x.quarterUnit
  let value := overPowerOfTen ⟨u.num, u.den⟩ e
  let lhs := d * value.den
  let low := (4 * x.significand - (if x.lowerGapHalved then 1 else 2)) * value.num
  let high := (4 * x.significand + 2) * value.num
  if x.significand % 2 = 0 then low ≤ lhs && lhs ≤ high else low < lhs && lhs < high

/-- The decimal of `n` digits that reads back as the number and is nearest to it. -/
def candidate? (x : Binary64) (k : Int) (n : Nat) : Option Scientific :=
  let e := k - n
  let scaled := overPowerOfTen x.magnitude e
  let down := scaled.num / scaled.den
  let rest := scaled.num % scaled.den
  let up := down + 1
  match readsBackAs x down e, readsBackAs x up e with
  | true, true =>
    if 2 * rest < scaled.den || (2 * rest = scaled.den && down % 2 = 0) then some ⟨down, e⟩
    else some ⟨up, e⟩
  | true, false => some ⟨down, e⟩
  | false, true => some ⟨up, e⟩
  | false, false => none

/-- The shortest decimal that reads back as a nonzero number. -/
def shortest (x : Binary64) : Scientific :=
  let k := decimalMagnitude x.magnitude
  match (List.range 17).findSome? fun n => candidate? x k (n + 1) with
  | some s => s.normalize 20
  | none => ⟨0, 0⟩

end LeasedStore.Decimal
