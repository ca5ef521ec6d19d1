import LoginThrottle.Proofs.Guard.Alike
import LoginThrottle.Proofs.Guard.Decision
import LoginThrottle.Proofs.Housekeeper
import LoginThrottle.Station

/-!
# Checks that never reach the throttle

A login check that is settled by the lists, or refused before the throttle is asked, leaves
no trace that any later event could find.  So a run can be told without such checks.

## Main Definitions

* `Station.isScreened`: an event is a login check that does not reach the throttle
* `Station.transcript`: the events of a run with what they led to
* `Station.Alike`: two stations differ at most in the lookups of their rule stores

## Main Statements

* `Station.alike_step_of_isScreened`: a screened check leaves a station like the one before
* `Station.decides_fail_closed`: how login checks are decided, and that the screened ones can
  be left out of any run

## Design Notes

Lookups are entered into the journal of the rule store, and which calls fail may depend on
the journal.  The statement about runs is therefore about stores in which earlier lookups
have no say in that.
-/

namespace LoginThrottle

namespace Station

/-! ### Stations that are alike -/

/-- Two stations differ at most in the lookups of their rule stores. -/
structure Alike (first second : Station) : Prop where
  now : first.now = second.now
  guard : first.guard.Alike second.guard
  watch : first.watch = second.watch

variable {first second : Station}

theorem Alike.trans {third : Station} (one : Alike first second) (two : Alike second third) :
    Alike first third :=
  ⟨one.now.trans two.now, one.guard.trans two.guard, one.watch.trans two.watch⟩

/-- Equal answers of guards that are alike make equal answers of stations. -/
theorem withGuard_alike {Given : Type} (alike : Alike first second)
    {one two : Given × Guard} (same : Corresponds Guard.Alike one two)
    (change : Given → Except Fault Answer) :
    Corresponds Alike (change one.1, { first with guard := one.2 })
      (change two.1, { second with guard := two.2 }) :=
  ⟨congrArg change same.answer, alike.now, same.state, alike.watch⟩

theorem react_alike (alike : Alike first second) (event : Event) :
    Corresponds Alike (first.react event) (second.react event) := by
  obtain ⟨now, ⟨rules, throttle⟩, watch⟩ := first
  obtain ⟨_, ⟨rulesToo, _⟩, _⟩ := second
  obtain ⟨rfl, guards, rfl⟩ := alike
  obtain ⟨sameRules, rfl⟩ := guards
  have guardsAlike : Guard.Alike ⟨rules, throttle⟩ ⟨rulesToo, throttle⟩ := ⟨sameRules, rfl⟩
  have alike : Alike ⟨now, ⟨rules, throttle⟩, watch⟩ ⟨now, ⟨rulesToo, throttle⟩, watch⟩ :=
    ⟨rfl, guardsAlike, rfl⟩
  cases event with
  | advance duration => exact ⟨rfl, rfl, guardsAlike, rfl⟩
  | rewind duration => exact ⟨rfl, rfl, guardsAlike, rfl⟩
  | check gate identity =>
      exact withGuard_alike alike (Guard.check_alike guardsAlike gate identity now)
        fun result => result.map .decision
  | checkAll gate identities =>
      exact withGuard_alike alike (Guard.checkAll_alike guardsAlike gate identities now)
        fun results => .ok (.decisions results)
  | reset gate identity =>
      exact withGuard_alike alike (Guard.reset_alike guardsAlike gate identity now)
        fun result => result.map fun _ => .done
  | allowed identity =>
      exact withGuard_alike alike
        (Guard.withThrottle_alike guardsAlike fun throttle => throttle.allowed identity now)
        fun result => result.map .count
  | setCost cost => exact ⟨rfl, rfl, ⟨sameRules, rfl⟩, rfl⟩
  | evict key =>
      simp only [react]
      cases throttle.evict key with
      | error fault => exact ⟨rfl, alike⟩
      | ok throttle => exact ⟨rfl, rfl, ⟨sameRules, rfl⟩, rfl⟩
  | withdraw key cost =>
      simp only [react]
      cases throttle.adjustBucket key fun bucket => bucket.withdraw cost with
      | none => exact ⟨rfl, alike⟩
      | some throttle => exact ⟨rfl, rfl, ⟨sameRules, rfl⟩, rfl⟩
  | sweep ttl failures => exact ⟨rfl, rfl, ⟨sameRules, rfl⟩, rfl⟩
  | startHousekeeper ttl interval failures => exact ⟨rfl, rfl, guardsAlike, rfl⟩
  | signal said => exact ⟨rfl, rfl, guardsAlike, rfl⟩
  | rules operation =>
      have served := RuleStore.serve_alike sameRules operation
      exact ⟨congrArg (Except.map Answer.rules) served.answer, rfl, ⟨served.state, rfl⟩, rfl⟩
  | describe => exact ⟨rfl, alike⟩

theorem keepHouse_alike (alike : Alike first second) :
    Corresponds Alike first.keepHouse second.keepHouse := by
  unfold keepHouse
  rw [alike.now, alike.guard.throttle, alike.watch]
  exact ⟨rfl, rfl, ⟨alike.guard.rules, rfl⟩, rfl⟩

/-- One event gives stations that are alike the same result and the same reports, and leaves
them alike. -/
theorem step_alike (alike : Alike first second) (event : Event) :
    (first.step event).result = (second.step event).result ∧
      (first.step event).reports = (second.step event).reports ∧
      Alike (first.step event).station (second.step event).station := by
  have reacted := react_alike alike event
  have kept := keepHouse_alike reacted.state
  exact ⟨reacted.answer, kept.answer, kept.state⟩

theorem run_alike (alike : Alike first second) (events : List Event) :
    Alike (first.run events) (second.run events) := by
  induction events generalizing first second with
  | nil => exact alike
  | cons event rest inductionHypothesis =>
      rw [run_cons, run_cons]
      exact inductionHypothesis (step_alike alike event).2.2

/-! ### Stations at which no sweep is due -/

/-- No sweep is due. -/
def Settled (station : Station) : Prop :=
  station.watch.CaughtUp station.now

theorem watch_react (station : Station) (event : Event) :
    (station.react event).2.watch = station.watch ∨
      (∃ ttl interval failures,
        (station.react event).2.watch = .start ttl interval failures station.now) ∨
      ∃ said, (station.react event).2.watch = (station.watch.signal said).2 := by
  cases event with
  | startHousekeeper ttl interval failures => exact .inr (.inl ⟨ttl, interval, failures, rfl⟩)
  | signal said => exact .inr (.inr ⟨said, rfl⟩)
  | evict key =>
      simp only [react]
      split <;> exact .inl rfl
  | withdraw key cost =>
      simp only [react]
      split <;> exact .inl rfl
  | _ => exact .inl rfl

theorem settled_step {station : Station} (settled : station.Settled) (event : Event) :
    (station.step event).station.Settled := by
  have positive (keeper : Housekeeper)
      (running : (station.react event).2.watch = .running keeper) : 0 < keeper.interval.nanos := by
    -- The housekeeper was running before, or the event has started it.
    rcases watch_react station event with same | ⟨_, _, _, started⟩ | ⟨said, signaled⟩
    · rw [Settled, ← same, running] at settled
      exact settled.1
    · exact Watch.interval_pos_of_start (started.symm.trans running)
    · rw [Settled, Watch.running_of_signal (signaled.symm.trans running)] at settled
      exact settled.1
  exact Watch.caughtUp_runDue positive _ _

theorem Settled.keepHouse_eq {station : Station} (settled : station.Settled) :
    station.keepHouse = ([], station) := by
  unfold keepHouse
  rw [Watch.CaughtUp.runDue_eq settled]

/-! ### Screened checks -/

/-- Whether an event is a login check that does not reach the throttle. -/
def isScreened (station : Station) : Event → Bool
  | .check .login identity =>
      match (station.guard.screen identity).1 with
      | .ok .undecided => false
      | _ => true
  | _ => false

theorem isScreened_alike (alike : Alike first second) (event : Event) :
    first.isScreened event = second.isScreened event := by
  cases event with
  | check gate identity =>
      cases gate with
      | login =>
          simp only [isScreened]
          rw [(Guard.screen_alike alike.guard identity).answer]
      | _ => rfl
  | _ => rfl

/-- A login check that does not reach the throttle is decided by what the lists say. -/
theorem guard_of_isScreened {station : Station} {event : Event}
    (screened : station.isScreened event = true) :
    ∃ identity, (station.react event).2 =
      { station with guard := (station.guard.screen identity).2 } := by
  unfold isScreened at screened
  split at screened
  · next identity =>
      refine ⟨identity, ?_⟩
      simp only [react, Guard.check, Guard.decide]
      cases answered : station.guard.screen identity with
      | mk result guard =>
          rw [answered] at screened
          rcases result with fault | _ | _ | _
          · rfl
          · rfl
          · rfl
          · cases screened
  · cases screened

/-- A screened check leaves a station like the one before. -/
theorem alike_step_of_isScreened {station : Station} {event : Event} (settled : station.Settled)
    (ignores : station.guard.rules.outage.IgnoresLookups)
    (screened : station.isScreened event = true) : Alike station (station.step event).station := by
  obtain ⟨identity, reacted⟩ := guard_of_isScreened screened
  have asked := Guard.alike_screen ignores identity
  have settledToo : Settled { station with guard := (station.guard.screen identity).2 } := settled
  have stepped : (station.step event).station =
      { station with guard := (station.guard.screen identity).2 } := by
    simp only [step, reacted, settledToo.keepHouse_eq]
  rw [stepped]
  exact ⟨rfl, asked, rfl⟩

/-! ### Transcripts -/

/-- An event of a run and what it led to. -/
structure Entry where
  event : Event
  screened : Bool
  result : Except Fault Answer
  reports : List SweepReport

/-- The events of a run with what they led to. -/
def transcript (station : Station) : List Event → List Entry
  | [] => []
  | event :: events =>
      let outcome := station.step event
      ⟨event, station.isScreened event, outcome.result, outcome.reports⟩ ::
        outcome.station.transcript events

/-- The part of a transcript that is not about screened checks. -/
def unscreened (entries : List Entry) : List Entry :=
  entries.filter fun entry => !entry.screened

theorem transcript_alike (alike : Alike first second) (events : List Event) :
    first.transcript events = second.transcript events := by
  induction events generalizing first second with
  | nil => rfl
  | cons event rest inductionHypothesis =>
      obtain ⟨result, reports, alikeAfter⟩ := step_alike alike event
      simp only [transcript]
      rw [isScreened_alike alike, result, reports, inductionHypothesis alikeAfter]

/-- A run without the screened checks of another one has what is left of its transcript, and
it ends at a station that is alike. -/
theorem transcript_unscreened {station : Station} (settled : station.Settled)
    (alike : Alike station station) (events : List Event) :
    station.transcript ((unscreened (station.transcript events)).map Entry.event) =
        unscreened (station.transcript events) ∧
      Alike (station.run ((unscreened (station.transcript events)).map Entry.event))
        (station.run events) := by
  induction events generalizing station with
  | nil => exact ⟨rfl, alike⟩
  | cons event rest inductionHypothesis =>
      have alikeAfter := (step_alike alike event).2.2
      obtain ⟨same, ends⟩ := inductionHypothesis (settled_step settled event) alikeAfter
      cases screened : station.isScreened event with
      | true =>
          -- The check is left out, and the rest is told from the station before it.
          have unmoved :=
            alike_step_of_isScreened settled alike.guard.rules.ignores screened
          have left : unscreened (station.transcript (event :: rest)) =
              unscreened ((station.step event).station.transcript rest) := by
            simp [transcript, unscreened, screened]
          rw [left, transcript_alike unmoved]
          exact ⟨same, (run_alike unmoved _).trans ends⟩
      | false =>
          have left : unscreened (station.transcript (event :: rest)) =
              ⟨event, false, (station.step event).result, (station.step event).reports⟩ ::
                unscreened ((station.step event).station.transcript rest) := by
            simp [transcript, unscreened, screened]
          rw [left, List.map_cons, run_cons]
          refine ⟨?_, ends⟩
          simp only [transcript, screened, same]

/-- A login check is decided by the first of seven reasons that applies, and only the last of
them asks the throttle.  If earlier lookups have no say in which calls of the rule store fail,
the checks that do not reach the throttle can be left out of a run: every other event has the
same result and the same sweeps behind it, and the run ends with the same throttle. -/
theorem decides_fail_closed :
    (∀ (guard : Guard) (identity : Identity) (now : Instant)
      (outcome : Except Fault Bool × Throttle), guard.Ruling identity now outcome ↔
        outcome = ((guard.check .login identity now).1,
          (guard.check .login identity now).2.throttle)) ∧
    ∀ (guard : Guard) (now : Instant) (events : List Event),
      guard.rules.outage.IgnoresLookups →
      let station : Station := ⟨now, guard, .absent⟩
      let kept := unscreened (station.transcript events)
      station.transcript (kept.map Entry.event) = kept ∧
        (station.run (kept.map Entry.event)).guard.throttle =
          (station.run events).guard.throttle := by
  refine ⟨fun guard identity now outcome => guard.ruling_iff identity now outcome, ?_⟩
  intro guard now events ignores station kept
  have alike : Alike station station := ⟨rfl, Guard.Alike.refl ignores, rfl⟩
  obtain ⟨same, ends⟩ := @transcript_unscreened station trivial alike events
  exact ⟨same, ends.guard.throttle⟩

/-- A guard with one address on its black list, whose store of rules deletes only once. -/
def blackListed : Guard where
  rules := ⟨⟨[⟨1, "10.0.0.7", .black⟩], 2⟩, .ofNames [] (some 1), []⟩
  throttle := .new (.reliable [.plain "ip" 2, .plain "login" 2, .plain "password" 1]) ⟨1, ⟨5⟩⟩

/-- Three checks, the first and the last of which do not reach the throttle. -/
def mixedChecks : List Event :=
  [.check .login (.ofAttempt "10.0.0.7" "root" "pw"),
    .check .login (.ofAttempt "10.0.0.8" "root" "pw"),
    .check .login (.ofAttempt "nowhere" "root" "pw")]

/-- Of three checks the two that do not reach the throttle can be left out. -/
theorem mixedChecks_unscreened :
    blackListed.rules.outage.IgnoresLookups ∧
      (unscreened (transcript ⟨.origin, blackListed, .absent⟩ mixedChecks)).length = 1 ∧
      (run ⟨.origin, blackListed, .absent⟩
          ((unscreened (transcript ⟨.origin, blackListed, .absent⟩ mixedChecks)).map
            Entry.event)).guard.throttle =
        (run ⟨.origin, blackListed, .absent⟩ mixedChecks).guard.throttle := by
  have ignores : blackListed.rules.outage.IgnoresLookups :=
    RuleOutage.ignoresLookups_ofNames [] (some 1)
  refine ⟨ignores, by decide +kernel, ?_⟩
  exact (decides_fail_closed.2 blackListed .origin mixedChecks ignores).2

end Station

end LoginThrottle
