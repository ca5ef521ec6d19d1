import LoginThrottle.Proofs.App.Attempts
import LoginThrottle.Proofs.Station.Usage

/-!
# Which buckets are ever reclaimed

A check refills the bucket that it charges, and nothing else in an application refills one.  So a
bucket is full only if a client was given a fresh start, and a housekeeper finds no others.
Clients are given a fresh start without their password, so buckets of passwords stay for good.

## Main Definitions

* `App.lastUse`: what was last done to the bucket of a value in a run, and when
* `App.Event.isFreshStart`: an event gives a client a fresh start
* `Station.Brought`: what an application can bring about at its station
* `App.isReclaimable`: what a housekeeper reclaims

## Main Statements

* `App.tells_run`, `App.keeps_run`: what a run preserves
* `App.reclaims_fresh_starts`: what is reclaimed in a run, and what never is
-/

namespace LoginThrottle

/-! ### Housekeepers of an application -/

/-- The housekeeper, if there is one, has this time to live, and no deletion is going to fail. -/
def Watch.Keeps (ttl : Duration) (watch : Watch) : Prop :=
  ∀ keeper, watch = .running keeper → keeper.failures = 0 ∧ keeper.ttl = ttl

theorem Watch.keeps_start (ttl interval : Duration) (now : Instant) :
    (Watch.start ttl interval 0 now).Keeps ttl := by
  intro keeper running
  rw [start] at running
  split at running
  · cases running
  · cases running
    exact ⟨rfl, rfl⟩

theorem Watch.Keeps.runDue {watch : Watch} {ttl : Duration} (keeps : watch.Keeps ttl)
    {throttle : Throttle} (named : throttle.ServesNamed) (now : Instant) :
    (watch.runDue throttle now).2.1.Keeps ttl := by
  cases watch with
  | running keeper =>
      obtain ⟨sure, ttl_eq⟩ := keeps keeper rfl
      rintro _ ⟨⟩
      exact ⟨(keeper.sweepTimes_sure sure named now _).1,
        (keeper.ttl_sweepTimes now _ throttle).trans ttl_eq⟩
  | _ => exact keeps

/-! ### Events at the station -/

namespace Station

/-- What an application can bring about at its station. -/
inductive Brought (sweeping : SweepConfig) : Event → Prop
  | action (action : Action) : Brought sweeping action.event
  | advance (duration : Duration) : Brought sweeping (.advance duration)
  | rewind (duration : Duration) : Brought sweeping (.rewind duration)
  | signal (said : Signal) : Brought sweeping (.signal said)
  | start : Brought sweeping (.startHousekeeper sweeping.ttl sweeping.interval 0)
  | look : Brought sweeping .describe

variable {sweeping : SweepConfig} {event : Event} {station : Station}

theorem brought_remoteEvent (sweeping : SweepConfig) (action : Action) :
    Brought sweeping action.remoteEvent := by
  unfold Action.remoteEvent
  split
  · exact .action action
  · exact .look

theorem brought_atStation (sweeping : SweepConfig) (event : App.Event) :
    Brought sweeping (event.atStation sweeping) := by
  cases event with
  | act action => exact .action action
  | advance duration => exact .advance duration
  | rewind duration => exact .rewind duration
  | signal said => exact .signal said
  | startSweeping =>
      simp only [App.Event.atStation]
      split
      · exact .start
      · exact .look
  | call call => exact brought_remoteEvent sweeping call.action
  | exchange exchange =>
      simp only [App.Event.atStation]
      split
      · exact .look
      · exact brought_remoteEvent sweeping _

/-- Clients are given a fresh start for their address and their login only. -/
theorem Brought.eq_of_resets (brought : Brought sweeping event) {dimension value : String}
    (resets : event.resets dimension value = true) :
    dimension = Dimension.ip.name ∨ dimension = Dimension.login.name := by
  cases brought with
  | action action =>
      cases action with
      | reset ip login =>
          have named := Identity.get?_eq_some_iff.1 (beq_iff_eq.1 resets)
          rw [Identity.pairs_ofClient] at named
          rcases List.mem_cons.1 named with same | later
          · exact .inl (Prod.mk.inj same).1
          · exact .inr (Prod.mk.inj (List.mem_singleton.1 later)).1
      | _ => cases resets
  | _ => cases resets

theorem Brought.keeps_react (brought : Brought sweeping event)
    (keeps : station.watch.Keeps sweeping.ttl) :
    (station.react event).2.watch.Keeps sweeping.ttl := by
  cases brought with
  | action action => cases action <;> exact keeps
  | signal said =>
      intro keeper running
      exact keeps keeper (Watch.running_of_signal running)
  | start => exact Watch.keeps_start sweeping.ttl sweeping.interval station.now
  | _ => exact keeps

end Station

namespace App

/-! ### Runs -/

theorem isService_map (sweeping : SweepConfig) (events : List Event) :
    ∀ atStation ∈ events.map fun event => event.atStation sweeping,
      atStation.isService = true := by
  intro atStation member
  obtain ⟨event, -, rfl⟩ := List.mem_map.1 member
  exact isService_atStation sweeping event

@[simp] theorem sweeping_run (app : App) (fresh : String) (events : List Event) :
    (app.run fresh events).sweeping = app.sweeping := by
  induction events generalizing app with
  | nil => rfl
  | cons event rest inductionHypothesis =>
      rw [run_cons, inductionHypothesis, sweeping_step]

/-- The bucket of a value in a dimension. -/
def bucketAt? (app : App) (dimension value : String) : Option Bucket :=
  app.station.guard.throttle.bucketAt? dimension value

/-- What was last done to the bucket of a value in a run, and when. -/
def lastUse (app : App) (events : List Event) (pair : String × String) :
    Option (Use × Instant) :=
  app.station.lastUse (events.map fun event => event.atStation app.sweeping) pair

/-- What a housekeeper reclaims after a run: the buckets of addresses and logins that were last
filled up as long ago as its time to live. -/
def isReclaimable (app : App) (events : List Event) (now : Instant) (dimension value : String) :
    Bool :=
  (dimension == Dimension.ip.name || dimension == Dimension.login.name) &&
    Use.isStale app.sweeping.ttl now (app.lastUse events (dimension, value))

/-- Whether an event gives a client a fresh start. -/
def Event.isFreshStart (sweeping : SweepConfig) (event : Event) : Bool :=
  match event.atStation sweeping with
  | .reset _ _ => true
  | _ => false

theorem resets_of_not_isFreshStart {sweeping : SweepConfig} {event : Event}
    (plain : event.isFreshStart sweeping = false) (dimension value : String) :
    (event.atStation sweeping).resets dimension value = false := by
  unfold Event.isFreshStart at plain
  cases brought : event.atStation sweeping with
  | reset gate identity =>
      rw [brought] at plain
      cases plain
  | _ => rfl

variable {config : Config} {app : App}

/-- Nothing but addresses and logins is ever filled up. -/
theorem eq_of_lastUse {events : List Event} {pair : String × String} {time : Instant}
    (used : app.lastUse events pair = some (.filled, time)) :
    pair.1 = Dimension.ip.name ∨ pair.1 = Dimension.login.name := by
  obtain ⟨atStation, member, resets⟩ := Station.exists_reset_of_lastUse used
  obtain ⟨event, -, rfl⟩ := List.mem_map.1 member
  exact (Station.brought_atStation app.sweeping event).eq_of_resets resets

theorem isReclaimable_eq (app : App) (events : List Event) (now : Instant)
    (dimension value : String) :
    app.isReclaimable events now dimension value =
      Use.isStale app.sweeping.ttl now (app.lastUse events (dimension, value)) := by
  rw [isReclaimable]
  cases used : app.lastUse events (dimension, value) with
  | none => exact Bool.and_false _
  | some last =>
      obtain ⟨use, time⟩ := last
      cases use with
      | charged => exact Bool.and_false _
      | filled =>
          have named : (dimension == Dimension.ip.name || dimension == Dimension.login.name) =
              true := by
            rw [Bool.or_eq_true, beq_iff_eq, beq_iff_eq]
            exact eq_of_lastUse used
          rw [named, Bool.true_and]

/-- Whatever happens, the housekeeper sweeps as it was told at the start. -/
theorem keeps_run {limits : List Limit} {cost : Nat} (serving : app.station.Serving limits cost)
    (keeps : app.station.watch.Keeps app.sweeping.ttl) (fresh : String) (events : List Event) :
    (app.run fresh events).station.watch.Keeps app.sweeping.ttl := by
  induction events generalizing app with
  | nil => exact keeps
  | cons event rest inductionHypothesis =>
      have service := isService_atStation app.sweeping event
      have reacted := (Station.brought_atStation app.sweeping event).keeps_react keeps
      have named := Station.servesNamed_react serving.sound serving.named service
      refine @inductionHypothesis (app.step fresh event).app ?_ ?_
      · rw [station_step]
        exact serving.step service
      · rw [station_step]
        exact reacted.runDue named _

section Accepted

variable (accepted : config.validate = .ok config) (made : ofConfig config = .ok app)
  (affordable : ∀ limit ∈ config.limits, config.limiter.requestCost ≤ limit.capacity)

include accepted made affordable

/-- After every run the last use tells what a bucket is like. -/
theorem tells_run (fresh : String) (events : List Event) (pair : String × String) :
    Use.Tells (app.lastUse events pair) ((app.run fresh events).bucketAt? pair.1 pair.2) := by
  have serving := serving_ofConfig accepted made
  rw [← max_requestCost accepted] at affordable
  have unused : Use.Tells none (app.station.guard.throttle.bucketAt? pair.1 pair.2) := by
    rw [Throttle.bucketAt?_of_none (Begun.ofConfig made).unmade]
    exact .gone none
  have tells := Station.tells_run serving affordable (isService_map app.sweeping events) unused
  rw [Option.or_none] at tells
  rw [bucketAt?, station_run]
  exact tells

/-- A live bucket that no event of the run and none of those to come fills up stays alive. -/
theorem alive_run {fresh : String} {events later : List Event} {pair : String × String}
    (unfilled : ∀ event ∈ events ++ later,
      (event.atStation app.sweeping).resets pair.1 pair.2 = false)
    (alive : (app.run fresh events).bucketAt? pair.1 pair.2 ≠ none) :
    ((app.run fresh events).run fresh later).bucketAt? pair.1 pair.2 ≠ none := by
  obtain ⟨bucket, found⟩ := Option.ne_none_iff_exists'.1 alive
  have tells := tells_run accepted made affordable fresh events pair
  rw [found] at tells
  have lacking : bucket.isFull = false := by
    rw [Bool.eq_false_iff]
    intro full
    obtain ⟨time, used⟩ := tells.isFull_iff.1 full
    obtain ⟨atStation, member, resets⟩ := Station.exists_reset_of_lastUse used
    obtain ⟨event, among, rfl⟩ := List.mem_map.1 member
    rw [unfilled event (List.mem_append_left later among)] at resets
    cases resets
  have serving := serving_run accepted made fresh events
  rw [← max_requestCost accepted] at affordable
  have unfilledLater : ∀ atStation ∈ later.map fun event => event.atStation app.sweeping,
      atStation.resets pair.1 pair.2 = false := by
    intro atStation member
    obtain ⟨event, among, rfl⟩ := List.mem_map.1 member
    exact unfilled event (List.mem_append_right events among)
  have start : (app.run fresh events).station.Lacking pair := ⟨bucket, found, lacking⟩
  obtain ⟨other, foundLater, -⟩ :=
    start.run serving affordable (isService_map app.sweeping later) unfilledLater
  rw [bucketAt?, station_run, sweeping_run, foundLater]
  exact Option.some_ne_none other

/-- A sweep of the housekeeper after an event reclaims what is to be reclaimed, and nothing else,
whatever sweeps were made before it at the same reading. -/
theorem sweepOnce_reclaims (fresh : String) (events : List Event) (event : Event)
    {station : Station} (reacted : ((app.run fresh events).react fresh event).2 = station)
    {keeper : Housekeeper} (running : station.watch = .running keeper) (done : Nat) :
    let before := Housekeeper.sweepTimes station.now done keeper station.guard.throttle
    ∃ evicted later after,
      before.2.1.sweepOnce before.2.2 station.now =
        (.finished evicted after.bucketCount, later, after) ∧
      evicted + after.bucketCount = before.2.2.bucketCount ∧
      ∀ dimension value, after.bucketAt? dimension value =
        if app.isReclaimable (events ++ [event]) station.now dimension value then none
        else before.2.2.bucketAt? dimension value := by
  intro before
  have serving := serving_run accepted made fresh events
  have service := isService_atStation app.sweeping event
  have idle : app.station.watch.Keeps app.sweeping.ttl := by
    rw [watch_ofConfig made]
    rintro keeper ⟨⟩
  have keeps : station.watch.Keeps app.sweeping.ttl := by
    have kept := keeps_run (serving_ofConfig accepted made) idle fresh events
    rw [← reacted, snd_react, sweeping_run]
    exact (Station.brought_atStation app.sweeping event).keeps_react kept
  obtain ⟨sure, ttl_eq⟩ := keeps keeper running
  have named : station.guard.throttle.ServesNamed := by
    rw [← reacted, snd_react, sweeping_run]
    exact Station.servesNamed_react serving.sound serving.named service
  have tells pair : Use.Tells (app.lastUse (events ++ [event]) pair)
      (before.2.2.bucketAt? pair.1 pair.2) := by
    refine Throttle.sweepTimes_preserves
      (fun throttle => Use.Tells (app.lastUse (events ++ [event]) pair)
        (throttle.bucketAt? pair.1 pair.2)) Throttle.tells_of_evict station.now done keeper ?_
    have told := tells_run accepted made affordable fresh events pair
    rw [← max_requestCost accepted] at affordable
    rw [lastUse, List.map_append, List.map_singleton, Station.lastUse_concat, ← station_run,
      ← reacted, snd_react, sweeping_run]
    exact Station.tells_react serving.sound (serving.affords affordable) service told
  obtain ⟨sureStill, bare_eq⟩ := keeper.sweepTimes_sure sure named station.now done
  obtain ⟨evicted, after, swept, counted, gone⟩ := Housekeeper.bucketAt?_sweepOnce sureStill
    (Throttle.servesNamed_of_bare_eq bare_eq named) tells station.now
  refine ⟨evicted, _, after, swept, counted, fun dimension value => ?_⟩
  rw [gone (dimension, value), isReclaimable_eq, ← ttl_eq, keeper.ttl_sweepTimes]

/-- With limits that all allow for the cost of an attempt, a live bucket is full exactly if the
last that came by it was a fresh start.  So every sweep of the housekeeper takes away the buckets
of addresses and logins that were last given a fresh start as long ago as the time to live, and
nothing else.  The bucket of a password stays once it is there, and without fresh starts there
are never fewer buckets. -/
theorem reclaims_fresh_starts (fresh : String) (events : List Event) :
    let reached := app.run fresh events
    (∀ dimension value bucket, reached.bucketAt? dimension value = some bucket →
      (bucket.isFull = true ↔
        ∃ time, app.lastUse events (dimension, value) = some (.filled, time))) ∧
    (∀ event keeper done,
      let station := (reached.react fresh event).2
      station.watch = .running keeper →
      let before := Housekeeper.sweepTimes station.now done keeper station.guard.throttle
      ∃ evicted later after,
        before.2.1.sweepOnce before.2.2 station.now =
          (.finished evicted after.bucketCount, later, after) ∧
        evicted + after.bucketCount = before.2.2.bucketCount ∧
        ∀ dimension value, after.bucketAt? dimension value =
          if app.isReclaimable (events ++ [event]) station.now dimension value then none
          else before.2.2.bucketAt? dimension value) ∧
    (∀ later value, reached.bucketAt? Dimension.password.name value ≠ none →
      (reached.run fresh later).bucketAt? Dimension.password.name value ≠ none) ∧
    ∀ later, (∀ event ∈ events ++ later, event.isFreshStart app.sweeping = false) →
      reached.bucketCount ≤ (reached.run fresh later).bucketCount := by
  intro reached
  refine ⟨?_, ?_, ?_, ?_⟩
  · intro dimension value bucket found
    have tells := tells_run accepted made affordable fresh events (dimension, value)
    rw [show (app.run fresh events).bucketAt? dimension value = some bucket from found] at tells
    exact tells.isFull_iff
  · intro event keeper done station running
    exact sweepOnce_reclaims accepted made affordable fresh events event rfl running done
  · intro later value alive
    refine @alive_run _ _ accepted made affordable _ _ later (Dimension.password.name, value) ?_
      alive
    intro event _
    rw [Bool.eq_false_iff]
    intro resets
    have notIp : Dimension.password.name ≠ Dimension.ip.name := by decide
    have notLogin : Dimension.password.name ≠ Dimension.login.name := by decide
    rcases (Station.brought_atStation app.sweeping event).eq_of_resets resets with same | same
    · exact notIp same
    · exact notLogin same
  · intro later unforgiven
    refine Throttle.bucketCount_le_of_live fun dimension value alive => ?_
    refine @alive_run _ _ accepted made affordable _ _ later (dimension, value) ?_ alive
    exact fun event member => resets_of_not_isFreshStart (unforgiven event member) _ _

end Accepted

/-- A client is given a fresh start while buckets are swept. -/
def freshStart : List Event :=
  [.startSweeping, .act (.check "10.0.0.8" "root" "pw"), .act (.reset "10.0.0.8" "root")]

/-- Eleven minutes later the buckets of the address and the login are reclaimed, and the bucket of
the password is there whatever happens. -/
theorem freshStart_reclaimed :
    Config.validate {} = .ok {} ∧
      (∀ limit ∈ defaultLimits, ({} : LimiterConfig).requestCost ≤ limit.capacity) ∧
      ∃ app, ofConfig {} = .ok app ∧ (app.run "" freshStart).bucketCount = 3 ∧
        (app.run "" (freshStart ++ [.advance (.ofSeconds 660)])).bucketCount = 1 ∧
        ∀ later, ((app.run "" freshStart).run "" later).bucketAt? Dimension.password.name "pw" ≠
          none := by
  have affordable : ∀ limit ∈ defaultLimits,
      ({} : LimiterConfig).requestCost ≤ limit.capacity := by decide
  refine ⟨rfl, affordable, _, rfl, by decide +kernel, by decide +kernel, fun later => ?_⟩
  obtain ⟨-, -, stays, -⟩ := @reclaims_fresh_starts {} _ rfl rfl affordable "" freshStart
  exact stays later "pw" (by decide +kernel)

end App

end LoginThrottle
