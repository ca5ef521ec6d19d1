/-!
# Durations and clock readings

Lengths of time and readings of a monotonic clock, both in whole nanoseconds.

## Main Definitions

* `Duration`: a length of time
* `Instant`: a reading of the clock, as a signed distance from its origin
* `Instant.since`: the time that passed between two readings
* `Instant.last`, `Instant.plus?`: how far the clock counts

## Design Notes

A clock may be read out of order, so `Instant.since` never goes below zero: a
reading that lies before the one it is compared with counts as no time at all.

No clock shows a reading behind the last one, but such readings can be planned.  Whoever plans
ahead asks with `Instant.plus?`.
-/

namespace LoginThrottle

/-- The number of nanoseconds in one second. -/
def nanosPerSecond : Nat := 1000000000

/-- A length of time in whole nanoseconds. -/
structure Duration where
  nanos : Nat
  deriving DecidableEq, Repr, Inhabited

namespace Duration

/-- The empty length of time. -/
def zero : Duration := ⟨0⟩

/-- The length of time of so many seconds and nanoseconds. -/
def ofParts (seconds nanos : Nat) : Duration :=
  ⟨seconds * nanosPerSecond + nanos⟩

/-- The length of time of so many whole seconds. -/
def ofSeconds (seconds : Nat) : Duration :=
  ofParts seconds 0

/-- The whole seconds of a length of time. -/
def wholeSeconds (duration : Duration) : Nat :=
  duration.nanos / nanosPerSecond

/-- The nanoseconds beyond the last whole second. -/
def subsecondNanos (duration : Duration) : Nat :=
  duration.nanos % nanosPerSecond

instance : LE Duration := ⟨fun first second => first.nanos ≤ second.nanos⟩

instance (first second : Duration) : Decidable (first ≤ second) :=
  inferInstanceAs (Decidable (first.nanos ≤ second.nanos))

theorem le_def {first second : Duration} : first ≤ second ↔ first.nanos ≤ second.nanos :=
  Iff.rfl

end Duration

/-- A reading of the monotonic clock: its signed distance in nanoseconds from the
origin of the clock. -/
structure Instant where
  offset : Int
  deriving DecidableEq, Repr, Inhabited

namespace Instant

/-- The reading at the origin of the clock. -/
def origin : Instant := ⟨0⟩

/-- The reading a given time later. -/
def plus (reading : Instant) (duration : Duration) : Instant :=
  ⟨reading.offset + duration.nanos⟩

/-- The reading a given time earlier. -/
def minus (reading : Instant) (duration : Duration) : Instant :=
  ⟨reading.offset - duration.nanos⟩

/-- The last reading of the clock, which counts its seconds in 63 bits. -/
def last : Instant :=
  ⟨(0x8000000000000000 * nanosPerSecond : Nat) - 1⟩

/-- The time from `earlier` to `now`, or no time when `now` lies before it. -/
def since (now earlier : Instant) : Duration :=
  ⟨(now.offset - earlier.offset).toNat⟩

instance : LE Instant := ⟨fun first second => first.offset ≤ second.offset⟩

instance (first second : Instant) : Decidable (first ≤ second) :=
  inferInstanceAs (Decidable (first.offset ≤ second.offset))

theorem le_def {first second : Instant} : first ≤ second ↔ first.offset ≤ second.offset :=
  Iff.rfl

/-- The reading a given time later, if the clock counts that far. -/
def plus? (reading : Instant) (duration : Duration) : Option Instant :=
  if reading.plus duration ≤ last then some (reading.plus duration) else none

@[simp] theorem since_self (reading : Instant) : reading.since reading = Duration.zero := by
  simp [since, Duration.zero]

@[simp] theorem plus_since (reading : Instant) (duration : Duration) :
    (reading.plus duration).since reading = duration := by
  cases duration
  simp only [since, plus, Duration.mk.injEq]
  omega

end Instant

end LoginThrottle
