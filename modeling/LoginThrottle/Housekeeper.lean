import LoginThrottle.Throttle

/-!
# Housekeeping

A housekeeper sweeps a throttle over and over, at a fixed interval, until it is told
to stop.

## Main Definitions

* `Housekeeper`: time to live, interval, the next deadline
* `Instant.lastTick`: the clock as the timer of a housekeeper sees it
* `Housekeeper.deadlineAfter`: when the sweep after another one is due
* `Housekeeper.runDue`: make all sweeps that are due
* `Signal`: what can be said to a housekeeper
* `Watch`: a throttle's housekeeper over its life

## Design Notes

The first sweep is due one interval after the start. A housekeeper that was not
looked at for several intervals makes up for each of them, at the reading at which it
is looked at. So as long as the clock counts to the next deadline, the number of its
sweeps depends on the time that has passed and not on how that time was cut into steps.

A deadline that the clock does not count to is replaced by one in `farFuture`, counted from when
it is planned.  Whether the clock counts that far depends on the interval and on the deadline
before it.  Behind such a deadline sweeps come `farFuture` after each other or later, since they
are planned when they are made, so their number does depend on the steps.  The far future itself
is taken to be within reach: no clock gets into its last thirty years.

The timer ticks in whole milliseconds from the origin of the clock. A deadline between two
ticks is due at the second one.

A failed sweep is reported and does not end the housekeeper. An interval of no
length has no deadlines: a housekeeper with one breaks down at once.
-/

namespace LoginThrottle

/-- A housekeeper at work. -/
structure Housekeeper where
  ttl : Duration
  interval : Duration
  /-- The reading at which the next sweep is due. -/
  deadline : Instant
  /-- The number of coming deletions that fail. -/
  failures : Nat
  deriving DecidableEq, Repr

/-- What a housekeeper reports of a sweep. -/
inductive SweepReport
  /-- Buckets were removed and others remain. -/
  | finished (evicted remaining : Nat)
  | failed (fault : Fault)
  deriving DecidableEq, Repr

/-- The nanoseconds between two ticks of the timer. -/
def tickNanos : Nat := 1000000

/-- The last tick of the timer up to a reading.  The timer does not see more of the clock, and
there is nothing to see behind its last reading. -/
def Instant.lastTick (now : Instant) : Instant :=
  ⟨min (now.offset / tickNanos * tickNanos) last.offset⟩

namespace Housekeeper

/-- Thirty years of 365 days. -/
def farFuture : Duration :=
  .ofSeconds (30 * 365 * 86400)

/-- When the next sweep is due, if one was due at `due` and the next is planned now. -/
def deadlineAfter (interval : Duration) (due now : Instant) : Instant :=
  (due.plus? interval).getD (now.plus farFuture)

/-- A housekeeper that starts now. -/
def start (ttl interval : Duration) (failures : Nat) (now : Instant) : Housekeeper where
  ttl := ttl
  interval := interval
  deadline := deadlineAfter interval now now
  failures := failures

/-- The number of sweeps that are due: one for each deadline up to the last tick. -/
def dueCount (keeper : Housekeeper) (now : Instant) : Nat :=
  if keeper.deadline ≤ now.lastTick then
    (now.lastTick.since keeper.deadline).nanos / keeper.interval.nanos + 1
  else
    0

/-- Makes one sweep and sets the next deadline. -/
def sweepOnce (keeper : Housekeeper) (throttle : Throttle) (now : Instant) :
    SweepReport × Housekeeper × Throttle :=
  let outcome := throttle.sweep keeper.ttl now keeper.failures
  let report :=
    match outcome.result with
    | .ok evicted => .finished evicted outcome.state.bucketCount
    | .error fault => .failed fault
  let keeper :=
    { keeper with
      failures := outcome.failures
      deadline := deadlineAfter keeper.interval keeper.deadline now }
  (report, keeper, outcome.state)

/-- Makes so many sweeps, one after the other. -/
def sweepTimes (now : Instant) :
    Nat → Housekeeper → Throttle → List SweepReport × Housekeeper × Throttle
  | 0, keeper, throttle => ([], keeper, throttle)
  | more + 1, keeper, throttle =>
    let (report, keeper, throttle) := keeper.sweepOnce throttle now
    let (reports, keeper, throttle) := sweepTimes now more keeper throttle
    (report :: reports, keeper, throttle)

/-- Makes all sweeps that are due. -/
def runDue (keeper : Housekeeper) (throttle : Throttle) (now : Instant) :
    List SweepReport × Housekeeper × Throttle :=
  sweepTimes now (keeper.dueCount now) keeper throttle

end Housekeeper

/-- What can be said to a housekeeper: to stop or not, or nothing any more. -/
inductive Signal
  | send (stop : Bool)
  | hangUp
  deriving DecidableEq, Repr

/-- Whether a signal ends a housekeeper. Nobody to listen to means stop. -/
def Signal.ends : Signal → Bool
  | send stop => stop
  | hangUp => true

/-- The housekeeper of a throttle over its life. -/
inductive Watch
  | absent
  | running (keeper : Housekeeper)
  /-- The housekeeper was started with an empty interval. -/
  | broken
  deriving DecidableEq, Repr

/-- How a housekeeper took a signal. -/
inductive StopAnswer
  | stopped
  | panicked
  | stillRunning
  | notRunning
  deriving DecidableEq, Repr

namespace Watch

/-- Starts a housekeeper, in the place of an older one. -/
def start (ttl interval : Duration) (failures : Nat) (now : Instant) : Watch :=
  if interval.nanos = 0 then .broken else .running (.start ttl interval failures now)

/-- Whether there is a housekeeper, at work or broken. -/
def isPresent : Watch → Bool
  | absent => false
  | _ => true

/-- Lets the housekeeper make the sweeps that are due. -/
def runDue (watch : Watch) (throttle : Throttle) (now : Instant) :
    List SweepReport × Watch × Throttle :=
  match watch with
  | running keeper =>
    let (reports, keeper, throttle) := keeper.runDue throttle now
    (reports, .running keeper, throttle)
  | other => ([], other, throttle)

/-- Says something to the housekeeper. -/
def signal (watch : Watch) (signal : Signal) : StopAnswer × Watch :=
  match watch with
  | absent => (.notRunning, .absent)
  | broken => (.panicked, .absent)
  | running keeper => if signal.ends then (.stopped, .absent) else (.stillRunning, .running keeper)

end Watch

end LoginThrottle
