import LoginThrottle.Guard.Concurrent
import LoginThrottle.Housekeeper
import LoginThrottle.Throttle.Description

/-!
# Stations

A station is a guard at work: a clock, a guard and the housekeeper of its throttle.

## Main Definitions

* `Station`: clock reading, guard and housekeeper
* `Station.Event`: what can happen at a station
* `Station.step`: the answer to one event, the sweeps that follow it and the new state
* `Station.run`: the state after a sequence of events

## Design Notes

Time passes only in events of its own, and it may run backwards. After every event the
housekeeper makes the sweeps that have come due.
-/

namespace LoginThrottle

/-- A guard at work. -/
structure Station where
  now : Instant
  guard : Guard
  watch : Watch

namespace Station

/-- A station whose clock stands at its origin, without a housekeeper. -/
def new (guard : Guard) : Station :=
  ⟨.origin, guard, .absent⟩

/-- What can happen at a station. -/
inductive Event
  | advance (duration : Duration)
  | rewind (duration : Duration)
  | check (gate : Gate) (identity : Identity)
  | checkAll (gate : Gate) (identities : List Identity)
  | reset (gate : Gate) (identity : Identity)
  | allowed (identity : Identity)
  | setCost (cost : Nat)
  | evict (key : String)
  /-- Takes tokens out of the bucket with the given key. -/
  | withdraw (key : String) (cost : Nat)
  /-- Sweeps once, with so many deletions failing at first. -/
  | sweep (ttl : Duration) (failures : Nat)
  | startHousekeeper (ttl interval : Duration) (failures : Nat)
  | signal (signal : Signal)
  | rules (operation : RuleStore.Operation)
  | describe
  deriving DecidableEq

/-- What an event answers. -/
inductive Answer
  | done
  | decision (passed : Bool)
  | decisions (results : List (Except Fault Bool))
  | count (number : Nat)
  /-- Whether there was a bucket to take tokens from. -/
  | withdrawn (found : Bool)
  | stop (answer : StopAnswer)
  | rules (answer : RuleStore.Answer)
  | text (description : String)

/-- The answer to an event and the state after it, before any sweep that is due. -/
def react (station : Station) : Event → Except Fault Answer × Station
  | .advance duration => (.ok .done, { station with now := station.now.plus duration })
  | .rewind duration => (.ok .done, { station with now := station.now.minus duration })
  | .check gate identity =>
    let (result, guard) := station.guard.check gate identity station.now
    (result.map .decision, { station with guard := guard })
  | .checkAll gate identities =>
    let (results, guard) := station.guard.checkAll gate identities station.now
    (.ok (.decisions results), { station with guard := guard })
  | .reset gate identity =>
    let (result, guard) := station.guard.reset gate identity station.now
    (result.map fun _ => .done, { station with guard := guard })
  | .allowed identity =>
    let (result, guard) := station.guard.allowed identity station.now
    (result.map .count, { station with guard := guard })
  | .setCost cost => (.ok .done, { station with guard := station.guard.setCost cost })
  | .evict key =>
    match station.guard.throttle.evict key with
    | .error fault => (.error fault, station)
    | .ok throttle => (.ok .done, { station with guard := { station.guard with throttle := throttle } })
  | .withdraw key cost =>
    match station.guard.throttle.adjustBucket key fun bucket => bucket.withdraw cost with
    | none => (.ok (.withdrawn false), station)
    | some throttle =>
      (.ok (.withdrawn true), { station with guard := { station.guard with throttle := throttle } })
  | .sweep ttl failures =>
    let outcome := station.guard.throttle.sweep ttl station.now failures
    (outcome.result.map .count,
      { station with guard := { station.guard with throttle := outcome.state } })
  | .startHousekeeper ttl interval failures =>
    (.ok .done, { station with watch := .start ttl interval failures station.now })
  | .signal signal =>
    let (answer, watch) := station.watch.signal signal
    (.ok (.stop answer), { station with watch := watch })
  | .rules operation =>
    let (result, rules) := station.guard.rules.serve operation
    (result.map .rules, { station with guard := { station.guard with rules := rules } })
  | .describe => (.ok (.text station.guard.throttle.describe), station)

/-- Lets the housekeeper make the sweeps that are due. -/
def keepHouse (station : Station) : List SweepReport × Station :=
  let (reports, watch, throttle) := station.watch.runDue station.guard.throttle station.now
  (reports, { station with watch := watch, guard := { station.guard with throttle := throttle } })

/-- What one event leads to. -/
structure Outcome where
  result : Except Fault Answer
  reports : List SweepReport
  station : Station

/-- One event and the sweeps that are due after it. -/
def step (station : Station) (event : Event) : Outcome :=
  let (result, station) := station.react event
  let (reports, station) := station.keepHouse
  ⟨result, reports, station⟩

/-- The state after a sequence of events. -/
def run (station : Station) (events : List Event) : Station :=
  events.foldl (fun station event => (station.step event).station) station

@[simp] theorem run_nil (station : Station) : station.run [] = station := rfl

@[simp] theorem run_cons (station : Station) (event : Event) (events : List Event) :
    station.run (event :: events) = (station.step event).station.run events := rfl

theorem run_append (station : Station) (first second : List Event) :
    station.run (first ++ second) = (station.run first).run second :=
  List.foldl_append

end Station

end LoginThrottle
