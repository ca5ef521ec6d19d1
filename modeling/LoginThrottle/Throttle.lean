import LoginThrottle.BucketKey
import LoginThrottle.Limit
import LoginThrottle.Meter
import LoginThrottle.Sweep

/-!
# Throttles

A throttle lets an attempt pass when the meters of all dimensions that the attempt
names can pay for it.

## Main Definitions

* `Throttle`: a limit store, a refill rate, a cost and the meters once they exist
* `Throttle.ensureMeters`: make the meters on first use
* `Throttle.satisfy`: charge the meters of an identity
* `Throttle.allowed`: how many attempts of an identity would pass
* `Throttle.reset`: fill up the buckets of an identity
* `Throttle.buckets`, `Throttle.evict`: all buckets by key, and the removal of one
* `Throttle.sweep`: one sweep over all buckets

## Design Notes

The meters are made once, from the limits stored for the dimensions of the identity
that comes first. From then on the set of dimensions is fixed, and an identity that
names another one is refused. A fetch that fails leaves the throttle without
meters, so that a later identity tries again.

The meters of an identity are used one after the other in the order of its
dimensions. What was done to the earlier ones stays done when a later dimension
denies the attempt or turns out not to be served.
-/

namespace LoginThrottle

/-- Meters for some dimensions, made on first use. -/
structure Throttle where
  store : LimitStore
  rate : RefillRate
  cost : Nat
  meters : Option (Keyed Meter)

namespace Throttle

/-- A throttle that has not made its meters yet. -/
def new (store : LimitStore) (rate : RefillRate) : Throttle where
  store := store
  rate := rate
  cost := defaultCost
  meters := none

/-- Whether the meters have been made. -/
def isInitialized (throttle : Throttle) : Bool :=
  throttle.meters.isSome

/-- The meters, none before they have been made. -/
def currentMeters (throttle : Throttle) : Keyed Meter :=
  throttle.meters.getD Keyed.empty

/-- The dimensions served, none before the meters have been made. -/
def dimensions (throttle : Throttle) : List String :=
  throttle.currentMeters.keys

/-- One meter per limit; of two limits for one dimension the later counts. -/
def metersOf (rate : RefillRate) (cost : Nat) (limits : List Limit) : Keyed Meter :=
  Keyed.ofPairs (limits.map fun limit =>
    (limit.dimension, (Meter.new limit.dimension limit.capacity rate).setCost cost))

/-- Makes the meters from fetched limits, unless the fetch failed or found none. -/
def adopt (throttle : Throttle) (fetched : Except Fault (List Limit)) :
    Except Fault (Keyed Meter) × Throttle :=
  match fetched with
  | .error fault => (.error fault, throttle)
  | .ok [] => (.error .noLimitsFound, throttle)
  | .ok limits =>
    let meters := metersOf throttle.rate throttle.cost limits
    (.ok meters, { throttle with meters := some meters })

/-- The meters, made from the limits of the identity's dimensions if need be. -/
def ensureMeters (throttle : Throttle) (identity : Identity) :
    Except Fault (Keyed Meter) × Throttle :=
  match throttle.meters with
  | some meters => (.ok meters, throttle)
  | none =>
    let (fetched, store) := throttle.store.fetch identity.dimensions
    { throttle with store := store }.adopt fetched

/-! ### Along the dimensions of an identity -/

/-- Charges the meters of the pairs in order, up to the first that cannot pay. -/
def chargeAll (now : Instant) :
    List (String × String) → Keyed Meter → Except Fault Bool × Keyed Meter
  | [], meters => (.ok true, meters)
  | (dimension, value) :: rest, meters =>
    match meters.find? dimension with
    | none => (.error .incorrectIdentity, meters)
    | some meter =>
      let (paid, charged) := meter.take value now
      let meters := meters.put dimension charged
      if paid then chargeAll now rest meters else (.ok false, meters)

/-- Fills up the buckets of the pairs in order. -/
def resetAll (now : Instant) :
    List (String × String) → Keyed Meter → Except Fault Unit × Keyed Meter
  | [], meters => (.ok (), meters)
  | (dimension, value) :: rest, meters =>
    match meters.find? dimension with
    | none => (.error .incorrectIdentity, meters)
    | some meter => resetAll now rest (meters.put dimension (meter.reset value now))

/-- The least number of attempts that the buckets of the pairs could pay for, and
no more than `least`. -/
def allowedAll (now : Instant) (least : Nat) :
    List (String × String) → Keyed Meter → Except Fault Nat × Keyed Meter
  | [], meters => (.ok least, meters)
  | (dimension, value) :: rest, meters =>
    match meters.find? dimension with
    | none => (.error .incorrectIdentity, meters)
    | some meter =>
      let (attempts, looked) := meter.affordable value now
      allowedAll now (min least attempts) rest (meters.put dimension looked)

/-- Files meters that an operation has changed. -/
def withMeters {Answer : Type} (throttle : Throttle) (used : Except Fault Answer × Keyed Meter) :
    Except Fault Answer × Throttle :=
  (used.1, { throttle with meters := some used.2 })

/-! ### Operations -/

/-- Whether the meters of all dimensions that the identity names can pay for one
attempt. -/
def satisfy (throttle : Throttle) (identity : Identity) (now : Instant) :
    Except Fault Bool × Throttle :=
  if identity.isEmpty then
    (.error .incorrectIdentity, throttle)
  else
    match throttle.ensureMeters identity with
    | (.error fault, throttle) => (.error fault, throttle)
    | (.ok meters, throttle) => throttle.withMeters (chargeAll now identity.pairs meters)

/-- How many attempts of the identity would pass now. The scarcest dimension
decides. -/
def allowed (throttle : Throttle) (identity : Identity) (now : Instant) :
    Except Fault Nat × Throttle :=
  if identity.isEmpty then
    (.error .incorrectIdentity, throttle)
  else
    match throttle.ensureMeters identity with
    | (.error fault, throttle) => (.error fault, throttle)
    | (.ok meters, throttle) =>
      throttle.withMeters (allowedAll now largestCount identity.pairs meters)

/-- Fills up the buckets that the identity names. -/
def reset (throttle : Throttle) (identity : Identity) (now : Instant) :
    Except Fault Unit × Throttle :=
  if identity.isEmpty then
    (.error .incorrectIdentity, throttle)
  else
    match throttle.meters with
    | none => (.error .noLimitsFound, throttle)
    | some meters => throttle.withMeters (resetAll now identity.pairs meters)

/-- Sets the cost of later attempts, on the meters too if they exist. A cost of zero
counts as one. -/
def setCost (throttle : Throttle) (cost : Nat) : Throttle :=
  { throttle with
    cost := max cost 1
    meters := throttle.meters.map fun meters => meters.mapValues fun meter => meter.setCost cost }

/-! ### Buckets by key -/

/-- The buckets of all meters by key. -/
def buckets (throttle : Throttle) : Keyed Bucket :=
  Keyed.ofPairs (throttle.currentMeters.entries.flatMap fun entry =>
    entry.2.buckets.entries.map fun filed => (bucketKey entry.1 filed.1, filed.2))

/-- The number of buckets over all meters. -/
def bucketCount (throttle : Throttle) : Nat :=
  (throttle.currentMeters.values.map fun meter => meter.buckets.size).foldr (· + ·) 0

/-- Forgets the bucket with the given key. A key must lead to a served dimension,
but the value behind it need not have a bucket. -/
def evict (throttle : Throttle) (key : String) : Except Fault Throttle :=
  match splitKey key with
  | none => .error (.incorrectBucketKey key)
  | some (dimension, value) =>
    match throttle.currentMeters.find? dimension with
    | none => .error (.incorrectBucketKey key)
    | some meter =>
      let meters := throttle.currentMeters.put dimension (meter.evict value)
      .ok { throttle with meters := some meters }

/-- Changes the bucket with the given key, if there is one. -/
def adjustBucket (throttle : Throttle) (key : String) (change : Bucket → Bucket) :
    Option Throttle :=
  match throttle.buckets.find? key with
  | none => none
  | some _ =>
    let adjust (dimension : String) (meter : Meter) : Meter :=
      { meter with
        buckets := meter.buckets.mapEntries fun value bucket =>
          if bucketKey dimension value = key then change bucket else bucket }
    some { throttle with meters := throttle.meters.map fun meters => meters.mapEntries adjust }

/-- Removes the buckets that are full and have been idle for at least `ttl`. -/
def sweep (throttle : Throttle) (ttl : Duration) (now : Instant) (failures : Nat) :
    Sweep.Outcome Throttle Nat :=
  Sweep.run evict throttle.buckets ttl now failures throttle

end Throttle

end LoginThrottle
