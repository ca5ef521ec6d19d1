import LoginThrottle.App
import LoginThrottle.Proofs.Station.Log

/-!
# Applications at their stations

What happens to an application happens at its station, whichever way it is asked for.  So
the runs of applications are runs of stations.

## Main Definitions

* `App.Event.atStation`: what an event of an application is at the station
* `App.Begun`: the two ways to come to an application

## Main Statements

* `App.station_run`: a run of an application is a run of its station
* `App.Begun.unmade`: an application begins without meters
-/

namespace LoginThrottle

/-- What an action that is asked for from afar is at a station.  If it lacks a text the
station is not asked, as if somebody only looked at it. -/
def Action.remoteEvent (action : Action) : Station.Event :=
  match action.emptyField? with
  | none => action.event
  | some _ => .describe

namespace App

/-- What an event of an application is at the station. -/
def Event.atStation (sweeping : SweepConfig) : Event → Station.Event
  | .advance duration => .advance duration
  | .rewind duration => .rewind duration
  | .act action => action.event
  | .startSweeping =>
      if sweeping.enabled then .startHousekeeper sweeping.ttl sweeping.interval 0 else .describe
  | .signal said => .signal said
  | .call received => received.action.remoteEvent
  | .exchange request =>
      match request.call with
      | .error _ => .describe
      | .ok received => received.action.remoteEvent

theorem isRoutine_event (action : Action) : action.event.isRoutine = true := by
  cases action <;> rfl

theorem isRoutine_remoteEvent (action : Action) : action.remoteEvent.isRoutine = true := by
  unfold Action.remoteEvent
  split
  · exact isRoutine_event action
  · rfl

/-- An application leaves the buckets to its throttle. -/
theorem isRoutine_atStation (sweeping : SweepConfig) (event : Event) :
    (event.atStation sweeping).isRoutine = true := by
  cases event with
  | act action => exact isRoutine_event action
  | startSweeping =>
      simp only [Event.atStation]
      split <;> rfl
  | call call => exact isRoutine_remoteEvent call.action
  | exchange exchange =>
      simp only [Event.atStation]
      split
      · rfl
      · exact isRoutine_remoteEvent _
  | _ => rfl

/-! ### Steps and runs -/

theorem snd_answer (station : Station) (action : Action) :
    (station.answer action).2 = (station.react action.remoteEvent).2 := by
  unfold Station.answer Action.remoteEvent
  cases action.emptyField? <;> rfl

theorem snd_answerCall (station : Station) (fresh : String) (call : Call) :
    (station.answerCall fresh call).2 = (station.react call.action.remoteEvent).2 :=
  snd_answer station call.action

theorem snd_react (app : App) (fresh : String) (event : Event) :
    (app.react fresh event).2 = (app.station.react (event.atStation app.sweeping)).2 := by
  cases event with
  | startSweeping =>
      simp only [react, startSweeping, Event.atStation]
      split <;> rfl
  | call call => exact snd_answerCall app.station fresh call
  | exchange exchange =>
      simp only [react, Station.exchange, Event.atStation]
      cases exchange.call with
      | error status => rfl
      | ok call => exact snd_answerCall app.station fresh call
  | _ => rfl

@[simp] theorem sweeping_step (app : App) (fresh : String) (event : Event) :
    (app.step fresh event).app.sweeping = app.sweeping := rfl

theorem station_step (app : App) (fresh : String) (event : Event) :
    (app.step fresh event).app.station =
      (app.station.step (event.atStation app.sweeping)).station := by
  have reacted := app.snd_react fresh event
  change (app.react fresh event).2.keepHouse.2 =
    (app.station.react (event.atStation app.sweeping)).2.keepHouse.2
  rw [reacted]

/-- A run of an application is a run of its station. -/
theorem station_run (app : App) (fresh : String) (events : List Event) :
    (app.run fresh events).station =
      app.station.run (events.map fun event => event.atStation app.sweeping) := by
  induction events generalizing app with
  | nil => rfl
  | cons event rest inductionHypothesis =>
      rw [run_cons, List.map_cons, Station.run_cons, inductionHypothesis, station_step,
        sweeping_step]

/-! ### How applications begin -/

/-- The two ways to come to an application. -/
inductive Begun : App → Prop
  | ofStores (limits : LimitStore) (outage : RuleOutage) (limiter : LimiterConfig) :
      Begun (.ofStores limits outage limiter)
  | ofConfig {config : Config} {app : App} (made : ofConfig config = .ok app) : Begun app

/-- What putting a text on a list preserves is preserved by the rules to start with. -/
theorem seed_preserves (Invariant : Station → Prop)
    (keeps : ∀ station list text, Invariant station →
      Invariant (Station.act station (.add list text)).2)
    {actions : List Action} {station after : Station}
    (additions : ∀ action ∈ actions, ∃ list text, action = .add list text)
    (seeded : seed actions station = .ok after) (holds : Invariant station) : Invariant after := by
  induction actions generalizing station with
  | nil =>
      rw [seed] at seeded
      exact Except.ok.inj seeded ▸ holds
  | cons action rest inductionHypothesis =>
      obtain ⟨list, text, rfl⟩ := additions action List.mem_cons_self
      have additionsLater action member := additions action (List.mem_cons_of_mem _ member)
      have kept := keeps station list text holds
      rw [seed] at seeded
      cases acted : station.act (.add list text) with
      | mk result between =>
          rw [acted] at seeded kept
          cases result with
          | error fault => cases seeded
          | ok reply => exact inductionHypothesis additionsLater seeded kept

theorem additions_seedActions (rules : SeedRules) :
    ∀ action ∈ seedActions rules, ∃ list text, action = .add list text := by
  intro action member
  rcases List.mem_append.1 member with white | black
  · obtain ⟨text, _, rfl⟩ := List.mem_map.1 white
    exact ⟨.white, text, rfl⟩
  · obtain ⟨text, _, rfl⟩ := List.mem_map.1 black
    exact ⟨.black, text, rfl⟩

/-- The application of a configuration has put its rules on the lists, all of them. -/
theorem exists_seed_of_ofConfig {config : Config} {app : App}
    (made : ofConfig config = .ok app) :
    ∃ station,
      seed (seedActions config.rules)
        (ofStores (.reliable config.limits) .never config.limiter).station = .ok station ∧
      app = ⟨station, config.limiter.sweeping⟩ := by
  unfold ofConfig at made
  simp only at made
  cases seeded : seed (seedActions config.rules)
      (ofStores (.reliable config.limits) .never config.limiter).station with
  | error fault =>
      rw [seeded] at made
      cases made
  | ok station =>
      rw [seeded] at made
      exact ⟨station, rfl, (Except.ok.inj made).symm⟩

/-- The application of a configuration begins with the throttle that the configuration
describes. -/
theorem throttle_ofConfig {config : Config} {app : App} (made : ofConfig config = .ok app) :
    app.station.guard.throttle =
      (Throttle.new (.reliable config.limits) config.limiter.refill.rate).setCost
        config.limiter.requestCost := by
  obtain ⟨station, seeded, rfl⟩ := exists_seed_of_ofConfig made
  exact seed_preserves
    (fun other => other.guard.throttle =
      (Throttle.new (.reliable config.limits) config.limiter.refill.rate).setCost
        config.limiter.requestCost)
    (fun other list text same => same) (additions_seedActions config.rules) seeded rfl

/-- An application begins without meters. -/
theorem Begun.unmade {app : App} (begun : app.Begun) :
    app.station.guard.throttle.meters = none := by
  cases begun with
  | ofStores limits outage limiter => rfl
  | ofConfig made =>
      rw [throttle_ofConfig made]
      rfl

end App

end LoginThrottle
