import LoginThrottle.Proofs.Station.Unswept
import LoginThrottle.Proofs.Throttle.View

/-!
# Stations that look alike

Two stations look alike in a view if their clocks, rules and housekeepers are the same and their
throttles look alike.  Whatever happens in view then has one answer at both, apart from answers
that sum up all buckets.

## Main Definitions

* `Watch.Steady`: no deletion of the housekeeper is going to fail
* `Station.Event.rename`: the event with other values
* `Station.Event.Visible`: an event names values in view only
* `Station.Shows`: two stations look alike

## Main Statements

* `Station.Shows.react`: an event in view is answered alike
* `Station.Shows.keepHouse`: housekeepers keep stations looking alike
* `Station.Shows.step`: both together
-/

namespace LoginThrottle

/-- No deletion of the housekeeper is going to fail. -/
def Watch.Steady : Watch → Prop
  | .running keeper => keeper.failures = 0
  | _ => True

theorem Watch.steady_signal {watch : Watch} (steady : watch.Steady) (said : Signal) :
    (watch.signal said).2.Steady := by
  cases watch with
  | absent => trivial
  | broken => trivial
  | running keeper =>
      simp only [signal]
      split
      · trivial
      · exact steady

theorem Watch.steady_start (ttl interval : Duration) (now : Instant) :
    (Watch.start ttl interval 0 now).Steady := by
  unfold start
  split
  · trivial
  · rfl

/-! ### Guards -/

/-- The lists say of an identity what they say of the renamed one. -/
def View.Screens (view : View) (identity : Identity) : Prop :=
  ∀ guard : Guard, guard.screen (identity.rename view.rename) = guard.screen identity

namespace Guard

/-- The rules are the same, and the throttles look alike. -/
structure Shows (view : View) (first second : Guard) : Prop where
  rules_eq : second.rules = first.rules
  throttle : Throttle.Shows view first.throttle second.throttle

namespace Shows

variable {view : View} {first second : Guard} {identity : Identity}

theorem withThrottle {Answer : Type} (shows : Shows view first second)
    {one other : Except Fault Answer × Throttle}
    (same : Corresponds (Throttle.Shows view) one other) :
    Corresponds (Shows view) (first.withThrottle one) (second.withThrottle other) :=
  ⟨same.answer, shows.rules_eq, same.state⟩

/-- A login attempt in view is decided alike, if the lists say the same of it. -/
theorem decide (shows : Shows view first second) (seen : view.SeesAll identity)
    (screens : view.Screens identity) (now : Instant) :
    Corresponds (Shows view) (first.decide identity now)
      (second.decide (identity.rename view.rename) now) := by
  obtain ⟨rules, throttle⟩ := second
  obtain rfl : rules = first.rules := shows.rules_eq
  have asked := first.screen_eq_of_throttle throttle identity
  have spared := first.throttle_screen identity
  rw [Guard.decide, Guard.decide, screens, asked]
  generalize first.screen identity = screened at spared
  obtain ⟨result, after⟩ := screened
  have showsAfter : Shows view after { after with throttle := throttle } :=
    ⟨rfl, spared.symm ▸ shows.throttle⟩
  rcases result with fault | _ | _ | _
  · exact ⟨rfl, showsAfter⟩
  · exact ⟨rfl, showsAfter⟩
  · exact ⟨rfl, showsAfter⟩
  · exact showsAfter.withThrottle (showsAfter.throttle.satisfy seen now)

theorem reset (shows : Shows view first second) (seen : view.SeesAll identity) (gate : Gate)
    (now : Instant) :
    Corresponds (Shows view) (first.reset gate identity now)
      (second.reset gate (identity.rename view.rename) now) := by
  cases gate with
  | list kind => exact ⟨rfl, shows⟩
  | throttle => exact shows.withThrottle (shows.throttle.reset seen now)
  | login => exact shows.withThrottle (shows.throttle.reset seen now)

end Shows

end Guard

/-! ### Stations -/

namespace Station

/-- The event with other values. -/
def Event.rename (rename : String → String → String) : Event → Event
  | .check gate identity => .check gate (identity.rename rename)
  | .reset gate identity => .reset gate (identity.rename rename)
  | .allowed identity => .allowed (identity.rename rename)
  | event => event

/-- The answer sums up all buckets. -/
def Event.isSummary : Event → Bool
  | .sweep _ _ | .describe => true
  | _ => false

/-- An event names values in view only, deals with no bucket by its key, and lets no deletion
fail. -/
def Event.Visible (view : View) : Event → Prop
  | .check .throttle identity | .reset _ identity | .allowed identity => view.SeesAll identity
  | .check .login identity => view.SeesAll identity ∧ view.Screens identity
  | .check (.list _) _ | .checkAll _ _ | .evict _ | .withdraw _ _ => False
  | .sweep _ failures | .startHousekeeper _ _ failures => failures = 0
  | .advance _ | .rewind _ | .setCost _ | .signal _ | .rules _ | .describe => True

/-- The clocks, the rules and the housekeepers are the same, no deletion is going to fail, and
the throttles look alike. -/
structure Shows (view : View) (first second : Station) : Prop where
  now_eq : second.now = first.now
  watch_eq : second.watch = first.watch
  steady : first.watch.Steady
  guard : Guard.Shows view first.guard second.guard

variable {view : View} {first second : Station} {event : Event}

namespace Shows

/-- What both guards do alike both stations do alike. -/
theorem withGuard {Answer Other : Type} (shows : Shows view first second)
    (change : Answer → Other) {one other : Answer × Guard}
    (same : Corresponds (Guard.Shows view) one other) :
    Corresponds (Shows view) (change one.1, { first with guard := one.2 })
      (change other.1, { second with guard := other.2 }) :=
  ⟨congrArg change same.answer, shows.now_eq, shows.watch_eq, shows.steady, same.state⟩

/-- A visible event that does not sum up buckets is answered alike, and every visible event
keeps stations looking alike. -/
theorem react (shows : Shows view first second) (named : first.guard.throttle.ServesNamed)
    (visible : event.Visible view) :
    (event.isSummary = false →
        (first.react event).1 = (second.react (event.rename view.rename)).1) ∧
      Shows view (first.react event).2 (second.react (event.rename view.rename)).2 := by
  obtain ⟨now, guard, watch⟩ := second
  obtain rfl : now = first.now := shows.now_eq
  obtain rfl : watch = first.watch := shows.watch_eq
  have both {one other : Except Fault Answer × Station} (same : Corresponds (Shows view) one other) :
      (event.isSummary = false → one.1 = other.1) ∧ Shows view one.2 other.2 :=
    ⟨fun _ => same.answer, same.state⟩
  cases event with
  | check gate identity =>
      cases gate with
      | throttle =>
          exact both (shows.withGuard (Except.map Answer.decision)
            (shows.guard.withThrottle (shows.guard.throttle.satisfy visible first.now)))
      | login =>
          exact both (shows.withGuard (Except.map Answer.decision)
            (shows.guard.decide visible.1 visible.2 first.now))
      | list kind => exact absurd visible id
  | reset gate identity =>
      exact both (shows.withGuard (Except.map fun _ => Answer.done)
        (shows.guard.reset visible gate first.now))
  | allowed identity =>
      exact both (shows.withGuard (Except.map Answer.count)
        (shows.guard.withThrottle (shows.guard.throttle.allowed visible first.now)))
  | sweep ttl failures =>
      obtain rfl : failures = 0 := visible
      exact ⟨fun plain => (nomatch plain), rfl, rfl, shows.steady, shows.guard.rules_eq,
        shows.guard.throttle.sweep named ttl first.now⟩
  | describe => exact ⟨fun plain => (nomatch plain), shows⟩
  | setCost cost =>
      exact both ⟨rfl, rfl, rfl, shows.steady, shows.guard.rules_eq,
        shows.guard.throttle.setCost cost⟩
  | startHousekeeper ttl interval failures =>
      obtain rfl : failures = 0 := visible
      exact both ⟨rfl, rfl, rfl, Watch.steady_start ttl interval first.now, shows.guard⟩
  | signal said => exact both ⟨rfl, rfl, rfl, Watch.steady_signal shows.steady said, shows.guard⟩
  | rules operation =>
      have rules_eq : guard.rules = first.guard.rules := shows.guard.rules_eq
      simp only [Event.rename, Station.react, rules_eq]
      exact ⟨fun _ => trivial, rfl, rfl, shows.steady, rfl, shows.guard.throttle⟩
  | advance duration => exact both ⟨rfl, rfl, rfl, shows.steady, shows.guard⟩
  | rewind duration => exact both ⟨rfl, rfl, rfl, shows.steady, shows.guard⟩
  | checkAll gate identities => exact absurd visible id
  | evict key => exact absurd visible id
  | withdraw key cost => exact absurd visible id

/-- Housekeepers keep stations looking alike. -/
theorem keepHouse (shows : Shows view first second) (named : first.guard.throttle.ServesNamed) :
    Shows view first.keepHouse.2 second.keepHouse.2 := by
  obtain ⟨now, guard, watch⟩ := second
  obtain rfl : now = first.now := shows.now_eq
  obtain rfl : watch = first.watch := shows.watch_eq
  obtain ⟨now, before, watch⟩ := first
  have steady : watch.Steady := shows.steady
  cases watch with
  | absent => exact shows
  | broken => exact shows
  | running keeper =>
      obtain ⟨same, throttle⟩ :=
        shows.guard.throttle.sweepTimes named now (keeper.dueCount now) keeper steady
      have sure := (keeper.sweepTimes_sure steady named now
        (keeper.dueCount now)).1
      exact ⟨rfl, congrArg Watch.running same, sure, shows.guard.rules_eq, throttle⟩

/-- A visible event with the sweeps behind it. -/
theorem step (shows : Shows view first second) (named : first.guard.throttle.ServesNamed)
    (namedAfter : (first.react event).2.guard.throttle.ServesNamed)
    (visible : event.Visible view) :
    (event.isSummary = false →
        (first.step event).result = (second.step (event.rename view.rename)).result) ∧
      Shows view (first.step event).station
        (second.step (event.rename view.rename)).station := by
  obtain ⟨answer, showsAfter⟩ := shows.react named visible
  exact ⟨answer, showsAfter.keepHouse namedAfter⟩

end Shows

end Station

end LoginThrottle
