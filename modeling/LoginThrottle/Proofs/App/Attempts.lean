import LoginThrottle.Proofs.App.AtStation
import LoginThrottle.Proofs.Config
import LoginThrottle.Proofs.Station.Service

/-!
# Which applications can decide every attempt

An accepted configuration may lack the limit of a dimension that every login attempt names.
An attempt that comes to that dimension ends in a fault, for every client alike.

## Main Definitions

* `App.AlwaysDecides`: no readable and complete check ever ends in a fault
* `App.removals`: the actions that take the texts of some rules off the lists

## Main Statements

* `App.serving_ofConfig`: the application of an accepted configuration begins in service
* `App.alwaysDecides_iff`: which accepted configurations can decide every attempt

## Design Notes

A client that is on a list is decided about without the throttle.  For the converse the lists
are therefore cleared first.
-/

namespace LoginThrottle

namespace App

/-- After every run, a check of a readable address with a login and a password comes to a
decision. -/
def AlwaysDecides (app : App) : Prop :=
  ∀ (fresh : String) (events : List Event) (ip login password : String) (address : IpAddress),
    IpAddress.read? ip = some address → login ≠ "" → password ≠ "" →
      ∃ passed, ((app.run fresh events).station.act (.check ip login password)).1 =
        .ok (.decision passed)

/-! ### Applications in service -/

theorem isService_event (action : Action) : action.event.isService = true := by
  cases action <;> rfl

theorem isService_remoteEvent (action : Action) : action.remoteEvent.isService = true := by
  unfold Action.remoteEvent
  split
  · exact isService_event action
  · rfl

theorem isService_atStation (sweeping : SweepConfig) (event : Event) :
    (event.atStation sweeping).isService = true := by
  cases event with
  | act action => exact isService_event action
  | startSweeping =>
      simp only [Event.atStation]
      split <;> rfl
  | call call => exact isService_remoteEvent call.action
  | exchange exchange =>
      simp only [Event.atStation]
      split
      · rfl
      · exact isService_remoteEvent _
  | _ => rfl

variable {config : Config} {app : App}

theorem reliable_ofConfig (made : ofConfig config = .ok app) :
    app.station.guard.rules.Reliable := by
  obtain ⟨station, seeded, rfl⟩ := exists_seed_of_ofConfig made
  refine seed_preserves (fun other => other.guard.rules.Reliable) ?_
    (additions_seedActions config.rules) seeded rfl
  intro other list text reliable
  exact (RuleStore.outage_serve other.guard.rules (.add text list)).trans reliable

theorem watch_ofConfig (made : ofConfig config = .ok app) : app.station.watch = .absent := by
  obtain ⟨station, seeded, rfl⟩ := exists_seed_of_ofConfig made
  exact seed_preserves (fun other => other.watch = .absent) (fun other list text same => same)
    (additions_seedActions config.rules) seeded rfl

/-- The application of an accepted configuration begins in service. -/
theorem serving_ofConfig (accepted : config.validate = .ok config)
    (made : ofConfig config = .ok app) :
    app.station.Serving config.limits config.limiter.requestCost := by
  have throttle := throttle_ofConfig made
  obtain ⟨flawless, _⟩ := (config.validate_eq_ok_iff config).1 accepted
  obtain ⟨_, cost_pos, _, proper, _⟩ := config.flaw?_eq_none_iff.1 flawless
  have unmade := (Begun.ofConfig made).unmade
  have limits_eq : app.station.guard.throttle.store.limits = config.limits := by
    rw [throttle]
    rfl
  exact {
    sound := Throttle.sound_of_none unmade
    named := by
      intro limit stored
      rw [limits_eq] at stored
      exact (proper limit stored).2
    limits_eq := limits_eq
    fetches := by
      rw [throttle]
      exact fun fetch => rfl
    cost_eq := by
      rw [throttle]
      exact Nat.max_eq_left cost_pos
    serves := Throttle.serves_of_none unmade _
    reliable := reliable_ofConfig made }

/-- Every run of the application leaves it in service. -/
theorem serving_run (accepted : config.validate = .ok config) (made : ofConfig config = .ok app)
    (fresh : String) (events : List Event) :
    (app.run fresh events).station.Serving config.limits config.limiter.requestCost := by
  rw [station_run]
  refine (serving_ofConfig accepted made).run ?_
  intro atStation member
  obtain ⟨event, _, rfl⟩ := List.mem_map.1 member
  exact isService_atStation app.sweeping event

/-! ### Clearing the lists -/

/-- The actions that take the texts of some rules off the lists. -/
def removals (rules : List Rule) : List Event :=
  rules.map fun rule => .act (.remove rule.list rule.text)

/-- Without a housekeeper, taking a text off a list changes the rules and nothing else. -/
theorem station_step_remove (absent : app.station.watch = .absent) (fresh : String)
    (list : ListKind) (text : String) :
    (app.step fresh (.act (.remove list text))).app.station =
      { app.station with
        guard := { app.station.guard with
          rules := (app.station.guard.rules.remove text list).2 } } := by
  obtain ⟨⟨now, ⟨rules, throttle⟩, watch⟩, sweeping⟩ := app
  obtain rfl : watch = .absent := absent
  rfl

/-- Once the texts of some rules were taken off the lists, only other rules are left. -/
theorem run_removals (rules : List Rule) (absent : app.station.watch = .absent)
    (reliable : app.station.guard.rules.Reliable) (fresh : String) :
    (app.run fresh (removals rules)).station.guard.throttle = app.station.guard.throttle ∧
      ∀ kept ∈ (app.run fresh (removals rules)).station.guard.rules.table.rules,
        kept ∈ app.station.guard.rules.table.rules ∧
          ∀ rule ∈ rules, ¬ (kept.list = rule.list ∧ kept.text = rule.text) := by
  induction rules generalizing app with
  | nil => exact ⟨rfl, fun kept left => ⟨left, fun rule none => absurd none List.not_mem_nil⟩⟩
  | cons rule rest inductionHypothesis =>
      have stepped := station_step_remove absent fresh rule.list rule.text
      obtain ⟨sameThrottle, others⟩ := @inductionHypothesis
        (app.step fresh (.act (.remove rule.list rule.text))).app
        (by rw [stepped]; exact absent)
        (by rw [stepped]; exact (RuleStore.outage_remove _ _ _).trans reliable)
      rw [stepped] at sameThrottle others
      refine ⟨sameThrottle, ?_⟩
      intro kept left
      obtain ⟨between, apart⟩ := others kept left
      obtain ⟨before, different⟩ := reliable.mem_of_mem_remove between
      refine ⟨before, ?_⟩
      intro other member
      rcases List.mem_cons.1 member with rfl | later
      · exact different
      · exact apart other later

/-- The lists can be cleared without a trace in the throttle. -/
theorem exists_run_unlisted (absent : app.station.watch = .absent)
    (reliable : app.station.guard.rules.Reliable) (fresh : String) :
    ∃ events, (app.run fresh events).station.guard.rules.table.rules = [] ∧
      (app.run fresh events).station.guard.throttle = app.station.guard.throttle := by
  refine ⟨removals app.station.guard.rules.table.rules, ?_⟩
  obtain ⟨sameThrottle, others⟩ :=
    run_removals app.station.guard.rules.table.rules absent reliable fresh
  refine ⟨?_, sameThrottle⟩
  rw [List.eq_nil_iff_forall_not_mem]
  intro kept left
  obtain ⟨before, apart⟩ := others kept left
  exact apart kept before ⟨rfl, rfl⟩

/-! ### Decisions for every attempt -/

theorem max_requestCost (accepted : config.validate = .ok config) :
    max config.limiter.requestCost 1 = config.limiter.requestCost := by
  obtain ⟨flawless, _⟩ := (config.validate_eq_ok_iff config).1 accepted
  obtain ⟨_, cost_pos, _⟩ := config.flaw?_eq_none_iff.1 flawless
  exact Nat.max_eq_left cost_pos

/-- If the limits bring an attempt to a decision in any case, every attempt is decided. -/
theorem alwaysDecides_of_decidesAlong (accepted : config.validate = .ok config)
    (made : ofConfig config = .ok app)
    (decides : Limit.DecidesAlong config.limits config.limiter.requestCost
      (Dimension.all.map Dimension.name)) : app.AlwaysDecides := by
  intro fresh events ip login password address spelled login_ne password_ne
  have serving := serving_run accepted made fresh events
  rw [← max_requestCost accepted] at decides
  exact serving.check_decides spelled login_ne password_ne decides

/-- If they do not, any attempt comes to a fault once the lists are cleared. -/
theorem exists_run_check_fails (accepted : config.validate = .ok config)
    (made : ofConfig config = .ok app)
    (blocked : ¬ Limit.DecidesAlong config.limits config.limiter.requestCost
      (Dimension.all.map Dimension.name)) (fresh : String) {ip login password : String}
    {address : IpAddress} (spelled : IpAddress.read? ip = some address) (login_ne : login ≠ "")
    (password_ne : password ≠ "") :
    ∃ events fault,
      ((app.run fresh events).station.act (.check ip login password)).1 = .error fault := by
  obtain ⟨events, unlisted, untouched⟩ :=
    exists_run_unlisted (watch_ofConfig made) (reliable_ofConfig made) fresh
  have serving := serving_run accepted made fresh events
  have unmade : (app.run fresh events).station.guard.throttle.meters = none := by
    rw [untouched]
    exact (Begun.ofConfig made).unmade
  rw [← max_requestCost accepted] at blocked
  exact ⟨events, serving.check_fails spelled login_ne password_ne unmade unlisted blocked⟩

/-- The application of an accepted configuration decides every attempt exactly if its limits
bring an attempt to a decision in any case.  They do if each dimension has one. -/
theorem alwaysDecides_iff (accepted : config.validate = .ok config)
    (made : ofConfig config = .ok app) :
    (app.AlwaysDecides ↔
      Limit.DecidesAlong config.limits config.limiter.requestCost
        (Dimension.all.map Dimension.name)) ∧
    ((∀ dimension : Dimension, ∃ capacity,
      Limit.capacityOf? config.limits dimension.name = some capacity) → app.AlwaysDecides) := by
  refine ⟨⟨?_, alwaysDecides_of_decidesAlong accepted made⟩, ?_⟩
  · intro always
    -- Any attempt refutes it, here one from an address of a private network.
    refine Classical.byContradiction fun blocked => ?_
    have spelled : IpAddress.read? "10.0.0.1" = some (.v4 0x0A000001#32) := by decide
    have login_ne : "root" ≠ "" := by decide
    have password_ne : "pw" ≠ "" := by decide
    obtain ⟨events, fault, failed⟩ :=
      exists_run_check_fails accepted made blocked "" spelled login_ne password_ne
    obtain ⟨passed, decided⟩ := always "" events _ _ _ _ spelled login_ne password_ne
    rw [failed] at decided
    cases decided
  · intro limited
    refine alwaysDecides_of_decidesAlong accepted made ?_
    refine Limit.decidesAlong_of_limited ?_ config.limiter.requestCost
    intro name member
    obtain ⟨dimension, _, rfl⟩ := List.mem_map.1 member
    exact limited dimension

/-- The default configuration leads to an application that decides every attempt. -/
theorem default_alwaysDecides :
    Config.validate {} = .ok {} ∧ ∃ app, ofConfig {} = .ok app ∧ app.AlwaysDecides :=
  have accepted : Config.validate {} = .ok {} := rfl
  ⟨accepted, _, rfl, (alwaysDecides_iff accepted rfl).2 fun dimension => by
    cases dimension <;> exact ⟨_, rfl⟩⟩

/-- Limits for logins and addresses alone. -/
def passwordless : Config where
  limits := [.plain Dimension.login.name 3, .plain Dimension.ip.name 50]

/-- Limits for logins and addresses alone are accepted, but then no first attempt of a client
that is on no list is decided. -/
theorem passwordless_fails :
    passwordless.validate = .ok passwordless ∧
      ∃ app, ofConfig passwordless = .ok app ∧
        (app.station.act (.check "10.0.0.1" "root" "pw")).1 = .error .incorrectIdentity ∧
        ¬ app.AlwaysDecides := by
  refine ⟨rfl, _, rfl, rfl, ?_⟩
  intro always
  obtain ⟨passed, decided⟩ := always "" [] "10.0.0.1" "root" "pw" (.v4 0x0A000001#32)
    (by decide) (by decide) (by decide)
  cases decided

end App

end LoginThrottle
