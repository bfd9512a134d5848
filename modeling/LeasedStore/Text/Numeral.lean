/-
Decimal numerals: how whole numbers are written in and read from text.

* `ofNat`, `ofInt`: the shortest numeral, with a minus sign where one is needed;
* `digits?`: a run of digits and nothing else;
* `signed?`: a numeral with an optional sign of either kind, leading zeros allowed;
* `int64?`, `uint32?`, `uint64?`: the same within the range of a word, out of range being
  unreadable.
-/
namespace LeasedStore.Numeral

/-- The numeral of a natural number. -/
def ofNat (n : Nat) : String := Nat.repr n

/-- The numeral of an integer. -/
def ofInt (i : Int) : String :=
  match i with
  | .ofNat n => ofNat n
  | .negSucc n => "-" ++ ofNat (n + 1)

/-- The number that a nonempty run of digits stands for. -/
def digits? (cs : List Char) : Option Nat :=
  if !cs.isEmpty && cs.all Char.isDigit then some (Nat.ofDigitChars 10 cs 0) else none

/-- The number that digits behind an optional sign stand for. -/
def signed? (cs : List Char) : Option Int :=
  match cs with
  | '-' :: ds => (digits? ds).map fun n => -(n : Int)
  | '+' :: ds => (digits? ds).map fun n => (n : Int)
  | ds => (digits? ds).map fun n => (n : Int)

/-- The number that digits behind an optional plus sign stand for. -/
def unsigned? (cs : List Char) : Option Nat :=
  match cs with
  | '+' :: ds => digits? ds
  | ds => digits? ds

/-- Does the integer fit into a signed word of 64 bits? -/
def FitsInt64 (i : Int) : Prop := -9223372036854775808 ≤ i ∧ i < 9223372036854775808

instance (i : Int) : Decidable (FitsInt64 i) := inferInstanceAs (Decidable (_ ∧ _))

/-- The signed word of 64 bits that holds an integer, if one does. -/
def fitInt64? (i : Int) : Option Int64 :=
  if FitsInt64 i then some (Int64.ofInt i) else none

/-- The signed word of 64 bits that a text stands for. -/
def int64? (s : String) : Option Int64 := (signed? s.toList).bind fitInt64?

/-- The unsigned word of 32 bits that a text stands for. -/
def uint32? (s : String) : Option UInt32 :=
  (unsigned? s.toList).bind fun n => if n < UInt32.size then some n.toUInt32 else none

/-- The unsigned word of 64 bits that a text stands for. -/
def uint64? (s : String) : Option UInt64 :=
  (unsigned? s.toList).bind fun n => if n < UInt64.size then some n.toUInt64 else none

/-- The numeral of a signed word. -/
def ofInt64 (i : Int64) : String := ofInt i.toInt

end LeasedStore.Numeral
