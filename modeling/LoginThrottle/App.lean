import LoginThrottle.Config
import LoginThrottle.Rpc.Exchange

/-!
# Applications

A station as a configuration describes it, open to direct actions, remote calls and requests
over HTTP.

## Main Definitions

* `App`: a station and when its buckets are to be swept
* `App.ofConfig`: the application of a configuration, with the rules to start with
* `App.ofStores`: an application on stores of its own
* `App.Event`, `App.step`, `App.run`: what can happen to an application

## Design Notes

The rules to start with are put on the lists one after the other, the white list first. A
text among them that cannot be put on a list is a fault, and there is no application.
-/

namespace LoginThrottle

/-- A station and when its buckets are to be swept. -/
structure App where
  station : Station
  sweeping : SweepConfig

namespace App

/-- An application on stores of its own. -/
def ofStores (limits : LimitStore) (outage : RuleOutage) (limiter : LimiterConfig) : App where
  station := .new ⟨.new outage, (Throttle.new limits limiter.refill.rate).setCost limiter.requestCost⟩
  sweeping := limiter.sweeping

/-- The actions that put the rules to start with on the lists. -/
def seedActions (rules : SeedRules) : List Action :=
  rules.white.map (.add .white) ++ rules.black.map (.add .black)

/-- The station after some actions, all of which must succeed. -/
def seed : List Action → Station → Except Fault Station
  | [], station => .ok station
  | action :: actions, station =>
    match station.act action with
    | (.error fault, _) => .error fault
    | (.ok _, station) => seed actions station

/-- The application of a configuration. -/
def ofConfig (config : Config) : Except Fault App :=
  let app := ofStores (.reliable config.limits) .never config.limiter
  (seed (seedActions config.rules) app.station).map fun station => { app with station := station }

/-! ### Events -/

/-- What can happen to an application. -/
inductive Event
  | advance (duration : Duration)
  | rewind (duration : Duration)
  | act (action : Action)
  /-- Starts the housekeeper if buckets are to be swept. -/
  | startSweeping
  | signal (signal : Signal)
  | call (call : Call)
  | exchange (exchange : Exchange)
  deriving DecidableEq

/-- What an event answers. -/
inductive Answer
  | done
  | reply (result : Except Fault Reply)
  /-- Whether a housekeeper was started. -/
  | started (enabled : Bool)
  | stop (answer : StopAnswer)
  | report (report : CallReport)
  | exchanged (reply : ExchangeReply)

/-- The station after its housekeeper was started, if buckets are to be swept. -/
def startSweeping (app : App) : Station :=
  if app.sweeping.enabled then
    { app.station with
      watch := .start app.sweeping.ttl app.sweeping.interval 0 app.station.now }
  else
    app.station

/-- The answer to an event and the station after it, before any sweep that is due. Request
ids that callers do not bring along are `fresh`. -/
def react (app : App) (fresh : String) : Event → Answer × Station
  | .advance duration => (.done, { app.station with now := app.station.now.plus duration })
  | .rewind duration => (.done, { app.station with now := app.station.now.minus duration })
  | .act action =>
    let (result, station) := app.station.act action
    (.reply result, station)
  | .startSweeping => (.started app.sweeping.enabled, app.startSweeping)
  | .signal signal =>
    let (answer, watch) := app.station.watch.signal signal
    (.stop answer, { app.station with watch := watch })
  | .call call =>
    let (report, station) := app.station.answerCall fresh call
    (.report report, station)
  | .exchange exchange =>
    let (reply, station) := app.station.exchange fresh exchange
    (.exchanged reply, station)

/-- What one event leads to. -/
structure Outcome where
  answer : Answer
  reports : List SweepReport
  app : App

/-- One event and the sweeps that are due after it. -/
def step (app : App) (fresh : String) (event : Event) : Outcome :=
  let (answer, station) := app.react fresh event
  let (reports, station) := station.keepHouse
  ⟨answer, reports, { app with station := station }⟩

/-- The state after a sequence of events. -/
def run (app : App) (fresh : String) (events : List Event) : App :=
  events.foldl (fun app event => (app.step fresh event).app) app

/-- The number of live buckets. -/
def bucketCount (app : App) : Nat :=
  app.station.guard.throttle.bucketCount

@[simp] theorem run_nil (app : App) (fresh : String) : app.run fresh [] = app := rfl

@[simp] theorem run_cons (app : App) (fresh : String) (event : Event) (events : List Event) :
    app.run fresh (event :: events) = (app.step fresh event).app.run fresh events := rfl

theorem run_append (app : App) (fresh : String) (first second : List Event) :
    app.run fresh (first ++ second) = (app.run fresh first).run fresh second :=
  List.foldl_append

end App

end LoginThrottle
