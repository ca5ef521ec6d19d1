import LoginThrottle.Proofs.Station.Log
import LoginThrottle.Proofs.Station.Screening

/-!
# The schedule of a housekeeper at its station

While a housekeeper is at work it makes one sweep for each interval that has passed, whatever
else happens at its station and however the clock got there, as long as the clock counts to the
next one.  Once it is told to stop, or nobody is left to tell it, it makes none.

## Main Definitions

* `Station.Event.starts`, `Station.Event.ends`: events that start and end housekeepers
* `Station.sweepReports`: the reports of all sweeps that a housekeeper makes in a run

## Main Statements

* `Station.onSchedule_step`: what happens at a station keeps the schedule of its housekeeper
* `Station.onSchedule_run`: a run keeps it too
* `Station.run_of_absent`: without a housekeeper events are all there is to a run
* `Station.sweeps_on_schedule`: the number of sweeps, and their end
* `Station.sweeps_off_schedule`: when the number is another one
-/

namespace LoginThrottle

namespace Station

/-- Whether an event starts a housekeeper. -/
def Event.starts : Event → Bool
  | .startHousekeeper _ _ _ => true
  | _ => false

/-- Whether an event ends the housekeeper. -/
def Event.ends : Event → Bool
  | .signal said => said.ends
  | _ => false

/-- The reports of all sweeps that a housekeeper makes in a run. -/
def sweepReports (station : Station) : List Event → List SweepReport
  | [] => []
  | event :: events =>
      (station.step event).reports ++ (station.step event).station.sweepReports events

/-! ### Housekeepers at work -/

/-- A housekeeper goes on unless it is ended or replaced. -/
theorem watch_react_of_running {station : Station} {keeper : Housekeeper}
    (running : station.watch = .running keeper) {event : Event} (notStarting : event.starts = false)
    (notEnding : event.ends = false) : (station.react event).2.watch = .running keeper := by
  cases event with
  | startHousekeeper ttl interval failures => cases notStarting
  | signal said =>
      change (station.watch.signal said).2 = .running keeper
      change said.ends = false at notEnding
      rw [running, Watch.signal, notEnding]
      rfl
  | evict key =>
      simp only [react]
      split <;> exact running
  | withdraw key cost =>
      simp only [react]
      split <;> exact running
  | _ => exact running

/-- Making the sweeps that are due keeps the schedule of a housekeeper. -/
theorem onSchedule_keepHouse {station : Station} {keeper : Housekeeper}
    {started earlier : Instant} {count : Nat} (running : station.watch = .running keeper)
    (schedule : keeper.OnSchedule started earlier count) (forward : earlier ≤ station.now) :
    ∃ after, station.keepHouse.2.watch = .running after ∧ after.interval = keeper.interval ∧
      after.OnSchedule started station.now (count + station.keepHouse.1.length) := by
  have kept := schedule.runDue forward station.guard.throttle
  simp only [keepHouse, running, Watch.runDue]
  exact ⟨_, rfl, Housekeeper.interval_sweepTimes _ _ _ _, kept⟩

/-- What happens at a station keeps the schedule of its housekeeper. -/
theorem onSchedule_step {station : Station} {keeper : Housekeeper} {started : Instant} {count : Nat}
    (running : station.watch = .running keeper)
    (schedule : keeper.OnSchedule started station.now count) {event : Event}
    (forward : event.isForward = true) (notStarting : event.starts = false)
    (notEnding : event.ends = false) :
    ∃ after, (station.step event).station.watch = .running after ∧
      after.interval = keeper.interval ∧
      after.OnSchedule started (station.step event).station.now
        (count + (station.step event).reports.length) :=
  onSchedule_keepHouse (watch_react_of_running running notStarting notEnding) schedule
    (le_now_react station forward)

/-- A housekeeper is on schedule from its start. -/
theorem onSchedule_spawn (station : Station) (ttl : Duration) {interval : Duration}
    (failures : Nat) (interval_pos : 0 < interval.nanos) :
    let spawned := station.step (.startHousekeeper ttl interval failures)
    ∃ keeper, spawned.station.watch = .running keeper ∧ keeper.interval = interval ∧
      keeper.OnSchedule station.now spawned.station.now spawned.reports.length := by
  have started : (station.react (.startHousekeeper ttl interval failures)).2.watch =
      .running (.start ttl interval failures station.now) :=
    if_neg (Nat.ne_of_gt interval_pos)
  have spawned := onSchedule_keepHouse started
    (Housekeeper.onSchedule_start ttl failures station.now interval_pos) (Int.le_refl _)
  rwa [Nat.zero_add] at spawned

/-- A run keeps the schedule of the housekeeper. -/
theorem onSchedule_run {station : Station} {keeper : Housekeeper} {started : Instant} {count : Nat}
    (running : station.watch = .running keeper)
    (schedule : keeper.OnSchedule started station.now count) {events : List Event}
    (undisturbed : ∀ event ∈ events,
      event.isForward = true ∧ event.starts = false ∧ event.ends = false) :
    ∃ after, (station.run events).watch = .running after ∧ after.interval = keeper.interval ∧
      after.OnSchedule started (station.run events).now
        (count + (station.sweepReports events).length) := by
  induction events generalizing station keeper count with
  | nil => exact ⟨keeper, running, rfl, schedule⟩
  | cons event rest inductionHypothesis =>
      obtain ⟨forward, notStarting, notEnding⟩ := undisturbed event List.mem_cons_self
      obtain ⟨next, nextRunning, sameInterval, nextSchedule⟩ :=
        onSchedule_step running schedule forward notStarting notEnding
      obtain ⟨after, stillRunning, interval_eq, onSchedule⟩ :=
        inductionHypothesis nextRunning nextSchedule fun later member =>
          undisturbed later (List.mem_cons_of_mem event member)
      refine ⟨after, stillRunning, interval_eq.trans sameInterval, ?_⟩
      -- The sweeps of the first event count in front of those of the rest.
      rw [sweepReports, List.length_append, ← Nat.add_assoc]
      exact onSchedule

/-- A housekeeper that is told to go on does nothing else. -/
theorem step_go_on {station : Station} (settled : station.Settled) {keeper : Housekeeper}
    (running : station.watch = .running keeper) :
    station.step (.signal (.send false)) = ⟨.ok (.stop .stillRunning), [], station⟩ := by
  have reacted : station.react (.signal (.send false)) = (.ok (.stop .stillRunning), station) := by
    obtain ⟨now, guard, watch⟩ := station
    obtain rfl : watch = .running keeper := running
    rfl
  simp only [step, reacted, settled.keepHouse_eq]

/-! ### Stations without a housekeeper -/

theorem watch_react_of_absent {station : Station} (absent : station.watch = .absent)
    {event : Event} (notStarting : event.starts = false) :
    (station.react event).2.watch = .absent := by
  cases event with
  | startHousekeeper ttl interval failures => cases notStarting
  | signal said =>
      change (station.watch.signal said).2 = .absent
      rw [absent]
      rfl
  | evict key =>
      simp only [react]
      split <;> exact absent
  | withdraw key cost =>
      simp only [react]
      split <;> exact absent
  | _ => exact absent

/-- Without a housekeeper events are all there is to a run. -/
theorem run_of_absent {station : Station} (absent : station.watch = .absent) {events : List Event}
    (notStarting : ∀ event ∈ events, event.starts = false) :
    station.sweepReports events = [] ∧
      station.run events = events.foldl (fun station event => (station.react event).2) station := by
  induction events generalizing station with
  | nil => exact ⟨rfl, rfl⟩
  | cons event rest inductionHypothesis =>
      have absentAfter := watch_react_of_absent absent (notStarting event List.mem_cons_self)
      have settled : (station.react event).2.Settled := by
        rw [Settled, absentAfter]
        trivial
      have kept := settled.keepHouse_eq
      obtain ⟨silent, left⟩ := inductionHypothesis absentAfter fun later member =>
        notStarting later (List.mem_cons_of_mem event member)
      simp only [sweepReports, run_cons, step, kept, List.foldl_cons, List.nil_append]
      exact ⟨silent, left⟩

/-- A signal that ends a housekeeper is followed by no sweep, and it leaves no housekeeper. -/
theorem step_end {station : Station} {keeper : Housekeeper}
    (running : station.watch = .running keeper) {said : Signal} (ends : said.ends = true) :
    station.step (.signal said) =
      ⟨.ok (.stop .stopped), [], { station with watch := .absent }⟩ := by
  obtain ⟨now, guard, watch⟩ := station
  obtain rfl : watch = .running keeper := running
  simp [step, react, Watch.signal, ends, keepHouse, Watch.runDue]

/-- While a housekeeper is at work it has made one sweep for each interval since its start,
however the time was cut into events, unless the interval under way is cut short by the far future
because the clock does not count to its end.  Here interval and start are in whole ticks of the
timer; if they are not, the intervals that are over at the last tick count.  Failed sweeps and
signals to go on change nothing about that.  After a signal that ends it there are no sweeps, so
that only events deal with buckets. -/
theorem sweeps_on_schedule (station : Station) (ttl interval : Duration) (failures : Nat)
    (events : List Event) (interval_pos : 0 < interval.nanos)
    (undisturbed : ∀ event ∈ events,
      event.isForward = true ∧ event.starts = false ∧ event.ends = false) :
    let spawn : Event := .startHousekeeper ttl interval failures
    let after := (station.step spawn).station.run events
    let made := (station.sweepReports (spawn :: events)).length
    (interval.InTicks → station.now.OnTick → after.now ≤ .last →
      Housekeeper.KeepsTime interval station.now after.now →
        made = (after.now.since station.now).nanos / interval.nanos) ∧
    (Housekeeper.KeepsTime interval station.now after.now.lastTick →
      made = (after.now.lastTick.since station.now).nanos / interval.nanos) ∧
    (∃ keeper, after.watch = .running keeper) ∧
    after.step (.signal (.send false)) = ⟨.ok (.stop .stillRunning), [], after⟩ ∧
    ∀ said later, said.ends = true → (∀ event ∈ later, event.starts = false) →
      after.sweepReports (.signal said :: later) = [] ∧
        after.run (.signal said :: later) =
          later.foldl (fun station event => (station.react event).2)
            { after with watch := .absent } := by
  intro spawn after made
  obtain ⟨first, spawnedRunning, spawnedInterval, spawnedSchedule⟩ :=
    onSchedule_spawn station ttl failures interval_pos
  obtain ⟨keeper, running, sameInterval, schedule⟩ :=
    onSchedule_run spawnedRunning spawnedSchedule undisturbed
  have interval_eq : keeper.interval = interval := sameInterval.trans spawnedInterval
  have settled : after.Settled := by
    change Watch.CaughtUp after.now after.watch
    rw [running]
    exact ⟨schedule.interval_pos, schedule.ahead⟩
  have counted (keeps : Housekeeper.KeepsTime interval station.now after.now.lastTick) :
      made = Housekeeper.intervalsOver interval station.now after.now.lastTick := by
    have all := schedule.count_eq (interval_eq.symm ▸ keeps)
    rw [interval_eq] at all
    exact (List.length_append).trans all
  refine ⟨fun whole onTick shown keeps => ?_, counted, ⟨keeper, running⟩,
    step_go_on settled running, ?_⟩
  · rw [counted (keeps.lastTick whole onTick shown),
      Housekeeper.intervalsOver_lastTick whole onTick shown]
    rfl
  · intro said later ends notStarting
    have ended := step_end running ends
    obtain ⟨silent, left⟩ := @run_of_absent { after with watch := .absent } rfl later notStarting
    rw [sweepReports, run_cons, ended]
    exact ⟨silent, left⟩

/-- A station with two limits, no rules and no housekeeper. -/
def unwatched : Station :=
  .new ⟨.new .never, .new (.reliable [.plain "login" 3, .plain "ip" 3]) ⟨1, ⟨5⟩⟩⟩

/-- Four seconds and a bit, cut into two steps with a check and a signal between them. -/
def fourSeconds : List Event :=
  [.advance (.ofParts 2 500000000), .check .throttle (.ofClient "10.0.0.1" "root"),
    .signal (.send false), .advance (.ofParts 1 700000000)]

/-- A housekeeper that sweeps every second has made four sweeps after four seconds, also by the last
tick, and it makes none once nobody is left to tell it to stop. -/
theorem fourSeconds_sweeps :
    let interval := Duration.ofSeconds 1
    let spawn : Event := .startHousekeeper ⟨0⟩ interval 1
    let after := (unwatched.step spawn).station.run fourSeconds
    let made := (unwatched.sweepReports (spawn :: fourSeconds)).length
    interval.InTicks ∧ unwatched.now.OnTick ∧ after.now ≤ .last ∧
      Housekeeper.KeepsTime interval unwatched.now after.now ∧
      Housekeeper.KeepsTime interval unwatched.now after.now.lastTick ∧
      made = 4 ∧ made = (after.now.lastTick.since unwatched.now).nanos / interval.nanos ∧
      after.sweepReports [.signal .hangUp, .advance (.ofSeconds 9)] = [] := by
  intro interval spawn after made
  have whole : interval.InTicks := by decide
  have onTick : unwatched.now.OnTick := by decide
  have undisturbed : ∀ event ∈ fourSeconds,
      event.isForward = true ∧ event.starts = false ∧ event.ends = false := by decide
  obtain ⟨counted, countedByTick, _, _, stops⟩ :=
    sweeps_on_schedule unwatched ⟨0⟩ interval 1 fourSeconds (by decide) undisturbed
  have fourMade : made = 4 :=
    (counted whole onTick (by decide +kernel) (by decide +kernel)).trans (by decide +kernel)
  exact ⟨whole, onTick, by decide +kernel, by decide +kernel, by decide +kernel, fourMade,
    countedByTick (by decide +kernel), (stops .hangUp [.advance (.ofSeconds 9)] rfl (by decide)).1⟩

/-- An interval that the clock does not count to is cut short: there is a sweep after thirty-one
years, long before it is over.  A housekeeper that was started between two ticks of the timer
sweeps too late: there is no sweep when its first interval is over. -/
theorem sweeps_off_schedule :
    (let interval := Duration.ofSeconds 0xffffffffffffffff
      let spawn : Event := .startHousekeeper ⟨0⟩ interval 0
      let events : List Event := [.advance (.ofSeconds 977616000)]
      let after := (unwatched.step spawn).station.run events
      0 < interval.nanos ∧ interval.InTicks ∧ unwatched.now.OnTick ∧ after.now ≤ .last ∧
        (∀ event ∈ events,
          event.isForward = true ∧ event.starts = false ∧ event.ends = false) ∧
        (unwatched.sweepReports (spawn :: events)).length = 1 ∧
        (after.now.since unwatched.now).nanos / interval.nanos = 0) ∧
      let interval := Duration.ofParts 0 1000000
      let spawn : Event := .startHousekeeper ⟨0⟩ interval 0
      let events : List Event := [.advance (.ofParts 0 1000000)]
      let between := (unwatched.step (.advance (.ofParts 0 500000))).station
      let after := (between.step spawn).station.run events
      0 < interval.nanos ∧ interval.InTicks ∧ ¬between.now.OnTick ∧ after.now ≤ .last ∧
        (∀ event ∈ events,
          event.isForward = true ∧ event.starts = false ∧ event.ends = false) ∧
        (between.sweepReports (spawn :: events)).length = 0 ∧
        (after.now.since between.now).nanos / interval.nanos = 1 := by
  decide +kernel

/-- Whether an interval is cut short depends on the reading at which it begins.  The clock counts to
the end of this one from its origin, but not from one second later. -/
example :
    let spawn : Event := .startHousekeeper ⟨0⟩ (.ofSeconds 0x7fffffffffffffff) 0
    let years : Event := .advance (.ofSeconds 977616000)
    (unwatched.sweepReports [spawn, years]).length = 0 ∧
      (unwatched.sweepReports [.advance (.ofSeconds 1), spawn, years]).length = 1 := by
  decide +kernel

end Station

end LoginThrottle
