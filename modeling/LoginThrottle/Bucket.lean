import LoginThrottle.RefillRate

/-!
# Token buckets

A bucket holds up to `capacity` tokens. Attempts take tokens out of it and time
puts them back at the bucket's refill rate.

## Main Definitions

* `Bucket`: capacity, rate, tokens left and the reading of the last refill
* `Bucket.refill`: credit what the time since the last refill has earned
* `Bucket.take`: refill, then pay a cost if the tokens suffice
* `Bucket.affordable`: refill, then count the attempts that the tokens pay for
* `Bucket.perform`: one action on a bucket at a clock reading

## Design Notes

`refill` moves `lastRefill` only when it credits a token. Otherwise a bucket that
is looked at often would lose the fraction of a token earned so far each time.
-/

namespace LoginThrottle

/-- A token bucket. -/
structure Bucket where
  capacity : Nat
  rate : RefillRate
  tokens : Nat
  lastRefill : Instant
  deriving DecidableEq, Repr, Inhabited

namespace Bucket

/-- A new bucket is full and counts as refilled when it was made. -/
def fresh (capacity : Nat) (rate : RefillRate) (now : Instant) : Bucket where
  capacity := capacity
  rate := rate
  tokens := capacity
  lastRefill := now

/-- The tokens earned since the last refill. -/
def earned (bucket : Bucket) (now : Instant) : Nat :=
  bucket.rate.tokensFor (now.since bucket.lastRefill)

/-- Credits the tokens earned since the last refill, up to the capacity. -/
def refill (bucket : Bucket) (now : Instant) : Bucket :=
  if bucket.earned now = 0 then
    bucket
  else
    { bucket with
      tokens := min (bucket.tokens + bucket.earned now) bucket.capacity
      lastRefill := now }

/-- Removes `cost` tokens, or all of them if there are fewer. -/
def withdraw (bucket : Bucket) (cost : Nat) : Bucket :=
  { bucket with tokens := bucket.tokens - cost }

/-- Whether the bucket can pay `cost` as it stands. An empty bucket pays nothing,
not even a cost of zero. -/
def canPay (bucket : Bucket) (cost : Nat) : Bool :=
  decide (0 < bucket.tokens ∧ cost ≤ bucket.tokens)

/-- Refills the bucket and pays `cost` from it if it can. -/
def take (bucket : Bucket) (cost : Nat) (now : Instant) : Bool × Bucket :=
  let refilled := bucket.refill now
  if refilled.canPay cost then (true, refilled.withdraw cost) else (false, refilled)

/-- Refills the bucket and counts the attempts of the given cost that it could pay
for one after the other. A cost of zero counts as one. -/
def affordable (bucket : Bucket) (cost : Nat) (now : Instant) : Nat × Bucket :=
  let refilled := bucket.refill now
  (refilled.tokens / max cost 1, refilled)

/-- Fills the bucket up, as if it were new. -/
def reset (bucket : Bucket) (now : Instant) : Bucket :=
  { bucket with tokens := bucket.capacity, lastRefill := now }

/-- Whether the bucket holds all the tokens that it can. -/
def isFull (bucket : Bucket) : Bool :=
  bucket.tokens == bucket.capacity

/-- The time since the last refill. -/
def idleFor (bucket : Bucket) (now : Instant) : Duration :=
  now.since bucket.lastRefill

/-! ### Single actions -/

/-- What can be done to a bucket. -/
inductive Action
  | refill
  | withdraw (cost : Nat)
  | reset
  | take (cost : Nat)
  | affordable (cost : Nat)
  | idleFor
  deriving DecidableEq, Repr

/-- What an action on a bucket answers. -/
inductive Answer
  | done
  | decision (allowed : Bool)
  | count (attempts : Nat)
  | time (duration : Duration)
  deriving DecidableEq, Repr

/-- Performs one action at a clock reading. -/
def perform (bucket : Bucket) (now : Instant) : Action → Answer × Bucket
  | .refill => (.done, bucket.refill now)
  | .withdraw cost => (.done, bucket.withdraw cost)
  | .reset => (.done, bucket.reset now)
  | .take cost =>
    let (allowed, bucket) := bucket.take cost now
    (.decision allowed, bucket)
  | .affordable cost =>
    let (attempts, bucket) := bucket.affordable cost now
    (.count attempts, bucket)
  | .idleFor => (.time (bucket.idleFor now), bucket)

/-! ### What the operations leave alone -/

@[simp] theorem capacity_refill (bucket : Bucket) (now : Instant) :
    (bucket.refill now).capacity = bucket.capacity := by
  unfold refill; split <;> rfl

@[simp] theorem rate_refill (bucket : Bucket) (now : Instant) :
    (bucket.refill now).rate = bucket.rate := by
  unfold refill; split <;> rfl

@[simp] theorem capacity_withdraw (bucket : Bucket) (cost : Nat) :
    (bucket.withdraw cost).capacity = bucket.capacity := rfl

@[simp] theorem isFull_fresh (capacity : Nat) (rate : RefillRate) (now : Instant) :
    (fresh capacity rate now).isFull = true := by
  simp [fresh, isFull]

@[simp] theorem isFull_reset (bucket : Bucket) (now : Instant) :
    (bucket.reset now).isFull = true := by
  simp [reset, isFull]

end Bucket

end LoginThrottle
