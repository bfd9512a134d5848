/-
Time: instants and durations in whole milliseconds, in signed words of 64 bits.

* `addSaturating`, `subSaturating`: sums and differences that stop at the last instant on either
  side instead of wrapping;
* `clamp`: a word held between two others;
* `Duration.millis`: the whole milliseconds of a duration, at most the largest word;
* `Clock`: a reading that is set or moved forward by hand.
-/
namespace LeasedStore

/-- The sum of two instants, held within the words of 64 bits. -/
def addSaturating (a b : Int64) : Int64 := Int64.ofIntClamp (a.toInt + b.toInt)

/-- The difference of two instants, held within the words of 64 bits. -/
def subSaturating (a b : Int64) : Int64 := Int64.ofIntClamp (a.toInt - b.toInt)

/-- A word held between a lower and an upper one. -/
def clamp (n lower upper : Int64) : Int64 :=
  if n < lower then lower else if upper < n then upper else n

/-- A span of time, of whole seconds and nanoseconds beside them. -/
structure Duration where
  seconds : UInt64
  nanos : UInt32
  deriving DecidableEq, Repr

namespace Duration

/-- The duration of a number of milliseconds. -/
def ofMillis (ms : UInt64) : Duration where
  seconds := ms / 1000
  nanos := (ms % 1000).toUInt32 * 1000000

/-- The whole milliseconds of a duration, as a natural number. -/
def totalMillis (d : Duration) : Nat := d.seconds.toNat * 1000 + d.nanos.toNat / 1000000

/-- The whole milliseconds of a duration; beyond the largest word, that word. -/
def millis (d : Duration) : Int64 := Int64.ofIntClamp d.totalMillis

end Duration

/-- A clock that shows the instant it was last set or moved to. -/
structure Clock where
  now : Int64
  deriving DecidableEq, Repr

namespace Clock

/-- The clock moved forward, at most to the last instant. -/
def advance (c : Clock) (by_ : Duration) : Clock := ⟨addSaturating c.now by_.millis⟩

/-- The clock set to an instant, whatever it showed. -/
def set (_ : Clock) (millis : Int64) : Clock := ⟨millis⟩

end Clock

end LeasedStore
