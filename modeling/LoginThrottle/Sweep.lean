import LoginThrottle.Bucket
import LoginThrottle.Fault
import LoginThrottle.Keyed

/-!
# Sweeps

A sweep removes the buckets that nobody would miss: those that are full and have
not gained a token for some time. It has two phases. The first selects keys from a
snapshot of the buckets, the second deletes the selected keys one by one.

## Main Definitions

* `Sweep.expired`: the keys selected from a snapshot
* `Sweep.deleteAll`: the deletion of selected keys, up to the first failure
* `Sweep.run`: both phases, one right after the other

## Design Notes

The deletions may fail. `failures` counts the coming deletions that do, and what is
left of it is handed back, so that a later sweep goes on counting.
-/

namespace LoginThrottle

namespace Sweep

/-- Whether a bucket is full and has been idle for at least `ttl`. -/
def isExpired (ttl : Duration) (now : Instant) (bucket : Bucket) : Bool :=
  bucket.isFull && decide (ttl ≤ bucket.idleFor now)

/-- The keys of the expired buckets of a snapshot. -/
def expired (buckets : Keyed Bucket) (ttl : Duration) (now : Instant) : List String :=
  (buckets.entries.filter fun entry => isExpired ttl now entry.2).map Prod.fst

variable {State : Type}

/-- What a phase or a whole sweep leaves behind. -/
structure Outcome (State Answer : Type) where
  result : Except Fault Answer
  failures : Nat
  state : State

/-- Deletes keys in order and stops at the first deletion that fails. Buckets that
were deleted before it stay deleted. -/
def deleteAll (evict : State → String → Except Fault State) :
    List String → Nat → State → Outcome State Unit
  | [], failures, state => ⟨.ok (), failures, state⟩
  | _ :: _, failures + 1, state => ⟨.error (.storage "sweep failed"), failures, state⟩
  | key :: keys, 0, state =>
    match evict state key with
    | .error fault => ⟨.error fault, 0, state⟩
    | .ok state => deleteAll evict keys 0 state

/-- Deletes the expired buckets of a snapshot and counts them. -/
def run (evict : State → String → Except Fault State) (buckets : Keyed Bucket)
    (ttl : Duration) (now : Instant) (failures : Nat) (state : State) : Outcome State Nat :=
  let selected := expired buckets ttl now
  let outcome := deleteAll evict selected failures state
  ⟨outcome.result.map fun _ => selected.length, outcome.failures, outcome.state⟩

end Sweep

end LoginThrottle
