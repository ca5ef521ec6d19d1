import LoginThrottle.Bucket
import LoginThrottle.Fault
import LoginThrottle.Identity
import LoginThrottle.Keyed
import LoginThrottle.Sweep

/-!
# Meters

A meter watches one dimension: it keeps a bucket for each value of the dimension
that it has seen, all of one capacity and refill rate.

## Main Definitions

* `Meter`: the buckets of one dimension
* `Meter.take`, `Meter.affordable`, `Meter.reset`: use the bucket of a value
* `Meter.satisfy`, `Meter.allowed`, `Meter.forgive`: the same for an identity
* `Meter.evict`: forget the bucket of a value
-/

namespace LoginThrottle

/-- The number of tokens that an attempt costs unless told otherwise. -/
def defaultCost : Nat := 1

/-- The buckets of one dimension, one for each value seen. -/
structure Meter where
  dimension : String
  capacity : Nat
  rate : RefillRate
  cost : Nat
  buckets : Keyed Bucket
  deriving DecidableEq

namespace Meter

/-- A meter that has seen no value yet. -/
def new (dimension : String) (capacity : Nat) (rate : RefillRate) : Meter where
  dimension := dimension
  capacity := capacity
  rate := rate
  cost := defaultCost
  buckets := Keyed.empty

/-- Sets the cost of later attempts. A cost of zero counts as one. -/
def setCost (meter : Meter) (cost : Nat) : Meter :=
  { meter with cost := max cost 1 }

/-- The bucket of a value, a new one if the value was never seen. -/
def bucketOf (meter : Meter) (value : String) (now : Instant) : Bucket :=
  (meter.buckets.find? value).getD (Bucket.fresh meter.capacity meter.rate now)

/-- Files the bucket of a value. -/
def file (meter : Meter) (value : String) (bucket : Bucket) : Meter :=
  { meter with buckets := meter.buckets.put value bucket }

/-- Charges the bucket of a value with one attempt and says whether it could pay. -/
def take (meter : Meter) (value : String) (now : Instant) : Bool × Meter :=
  let (paid, bucket) := (meter.bucketOf value now).take meter.cost now
  (paid, meter.file value bucket)

/-- Counts the attempts that the bucket of a value could pay for. -/
def affordable (meter : Meter) (value : String) (now : Instant) : Nat × Meter :=
  let (attempts, bucket) := (meter.bucketOf value now).affordable meter.cost now
  (attempts, meter.file value bucket)

/-- Fills up the bucket of a value. A value never seen stays unseen. -/
def reset (meter : Meter) (value : String) (now : Instant) : Meter :=
  match meter.buckets.find? value with
  | some bucket => meter.file value (bucket.reset now)
  | none => meter

/-- Forgets the bucket of a value. -/
def evict (meter : Meter) (value : String) : Meter :=
  { meter with buckets := meter.buckets.erase value }

/-! ### By identity -/

/-- Charges the value that an identity names in the meter's dimension. -/
def satisfy (meter : Meter) (identity : Identity) (now : Instant) : Except Fault Bool × Meter :=
  match identity.get? meter.dimension with
  | none => (.error .incorrectIdentity, meter)
  | some value =>
    let (paid, meter) := meter.take value now
    (.ok paid, meter)

/-- Counts the attempts left to the value that an identity names in the meter's
dimension. -/
def allowed (meter : Meter) (identity : Identity) (now : Instant) : Except Fault Nat × Meter :=
  match identity.get? meter.dimension with
  | none => (.error .incorrectIdentity, meter)
  | some value =>
    let (attempts, meter) := meter.affordable value now
    (.ok attempts, meter)

/-- Fills up the bucket of the value that an identity names in the meter's
dimension. -/
def forgive (meter : Meter) (identity : Identity) (now : Instant) : Except Fault Unit × Meter :=
  match identity.get? meter.dimension with
  | none => (.error .incorrectIdentity, meter)
  | some value => (.ok (), meter.reset value now)

/-- Removes the buckets that are full and have been idle for at least `ttl`. The values
themselves are the keys. -/
def sweep (meter : Meter) (ttl : Duration) (now : Instant) : Sweep.Outcome Meter Nat :=
  Sweep.run (fun meter value => .ok (meter.evict value)) meter.buckets ttl now 0 meter

end Meter

end LoginThrottle
