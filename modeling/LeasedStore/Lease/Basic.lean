/-
Leases: for a span of time one holder alone may write an entity.

A lease is active up to and including the instant at which its duration is over; after that it
counts for nothing.

* `Lease`: who holds which entity, since when and for how long;
* `Lease.endOrder`, `Lease.IsActive`: the order of the last instant of a lease and another one, as
  the database has it, and the instants at which the lease is active;
* `Lease.expiresAt`, `Lease.isExpired`: the last instant as holders compute it, and whether it is
  over;
* `grantedDuration`: the duration that a request is granted, so that the last instant fits a word.
-/
import LeasedStore.Clock
import LeasedStore.Decimal.Real

namespace LeasedStore

/-- The right of one holder to write one entity for a span of time. -/
structure Lease where
  /-- The kind of the entity. -/
  resourceKind : String
  entityId : String
  leasedBy : String
  leasedAt : Int64
  duration : Int64
  deriving DecidableEq, Repr

/-- What a lease is about: a kind of entities and the id of one of them. -/
structure Resource where
  kind : String
  id : String
  deriving DecidableEq, Repr

namespace Lease

open Decimal.RealNumber (add compareInt ofInt)

/-- What the lease is about. -/
def resource (l : Lease) : Resource := ⟨l.resourceKind, l.entityId⟩

/-- The order of the last instant of a lease and another one.  A database adds up words as words, if
their sum is one, and else as real numbers. -/
def endOrder (l : Lease) (now : Int64) : Ordering :=
  let sum := l.leasedAt.toInt + l.duration.toInt
  if Int64.minValue.toInt ≤ sum ∧ sum ≤ Int64.maxValue.toInt then
    compare (l.leasedAt + l.duration) now
  else
    (compareInt now (add (ofInt l.leasedAt.toInt) (ofInt l.duration.toInt))).swap

/-- Is the lease active at an instant? -/
def IsActive (l : Lease) (now : Int64) : Prop := (l.endOrder now).isGE = true

instance (l : Lease) (now : Int64) : Decidable (l.IsActive now) :=
  inferInstanceAs (Decidable (_ = _))

/-- The last instant of a lease, held within the words of 64 bits. -/
def expiresAt (l : Lease) : Int64 := addSaturating l.leasedAt l.duration

/-- Is the lease over at an instant? -/
def isExpired (l : Lease) (now : Int64) : Bool := l.expiresAt < now

end Lease

/-- The duration that a request is granted at an instant: not negative, and not beyond the last
instant that there is. -/
def grantedDuration (now requested : Int64) : Int64 :=
  clamp requested 0 (max (subSaturating Int64.maxValue now) 0)

end LeasedStore
