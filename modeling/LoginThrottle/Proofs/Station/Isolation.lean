import LoginThrottle.Proofs.Station.Opening
import LoginThrottle.Proofs.Station.View

/-!
# Clients that do not notice each other

Some clients have values of their own in every dimension.  Once the meters are made, nothing that
others ask for changes what these clients are told or what becomes of their buckets.

## Main Definitions

* `Station.Event.isMetering`: what metering is about, with sweeps in which no deletion fails
* `Station.Event.isWhole`: the values of an event are all in a scope, or all out of it
* `Station.Event.isOutside`: a client asks for something, with values out of a scope

## Main Statements

* `Station.Shows.step_outside`: what is asked for from outside is not noticed
* `Station.clients_isolated`: it can be left out of a run

## Design Notes

Sweeps are made for everybody, and their answers count the buckets of everybody.  So these
answers are left aside, while what the sweeps do to buckets is not.
-/

namespace LoginThrottle

/-- The view of the values in a scope, under their own names. -/
def View.ofScope (scope : String → String → Bool) : View where
  sees := scope
  rename := fun _ value => value
  rename_inj := fun _ _ same => same

@[simp] theorem Identity.rename_ofScope (scope : String → String → Bool) (identity : Identity) :
    identity.rename (View.ofScope scope).rename = identity := by
  obtain ⟨pairs, sorted⟩ := identity
  simp only [Identity.rename, View.ofScope, List.map_id']

namespace Station

/-- What metering is about: checks, questions and resets at the throttle, the cost, the clock,
and sweeps in which no deletion fails. -/
def Event.isMetering : Event → Bool
  | .check .throttle _ | .reset .throttle _ | .allowed _ | .setCost _ => true
  | .advance _ | .rewind _ | .signal _ => true
  | .sweep _ failures | .startHousekeeper _ _ failures => failures == 0
  | _ => false

/-- The identity that a client names in an event. -/
def Event.identity? : Event → Option Identity
  | .check _ identity | .reset _ identity | .allowed identity => some identity
  | _ => none

/-- A client asks for something, and all values that it names are out of a scope. -/
def Event.isOutside (scope : String → String → Bool) (event : Event) : Bool :=
  event.identity?.any fun identity => identity.pairs.all fun pair => !scope pair.1 pair.2

/-- The values that a client names are all in a scope, or all out of it. -/
def Event.isWhole (scope : String → String → Bool) (event : Event) : Bool :=
  event.identity?.all fun identity =>
    (identity.pairs.all fun pair => scope pair.1 pair.2) ||
      identity.pairs.all fun pair => !scope pair.1 pair.2

variable {scope : String → String → Bool} {event : Event}

@[simp] theorem Event.rename_ofScope (event : Event) :
    event.rename (View.ofScope scope).rename = event := by
  cases event <;> simp only [Event.rename, Identity.rename_ofScope]

/-- What is not asked for from outside is visible inside. -/
theorem Event.visible_of_isWhole (metering : event.isMetering = true)
    (whole : event.isWhole scope = true) (inside : event.isOutside scope = false) :
    event.Visible (View.ofScope scope) := by
  have seen {identity : Identity} (named : event.identity? = some identity) :
      (View.ofScope scope).SeesAll identity := by
    rw [isOutside, named, Option.any_some] at inside
    rw [isWhole, named, Option.all_some, inside, Bool.or_false, List.all_eq_true] at whole
    exact whole
  cases event with
  | check gate identity =>
      cases gate with
      | throttle => exact seen rfl
      | login => cases metering
      | list kind => cases metering
  | reset gate identity => exact seen rfl
  | allowed identity => exact seen rfl
  | sweep ttl failures => exact beq_iff_eq.1 metering
  | startHousekeeper ttl interval failures => exact beq_iff_eq.1 metering
  | checkAll gate identities => cases metering
  | evict key => cases metering
  | withdraw key cost => cases metering
  | _ => trivial

variable {first second : Station}

/-- What is asked for from outside changes buckets out of view and nothing else. -/
theorem Shows.react_outside (shows : Shows (View.ofScope scope) first second)
    (made : first.guard.throttle.meters ≠ none) (metering : event.isMetering = true)
    (outside : event.isOutside scope = true) :
    ∃ guard, (first.react event).2 = { first with guard := guard } ∧
      Guard.Shows (View.ofScope scope) guard second.guard := by
  have unseen {identity : Identity} (named : event.identity? = some identity) :
      (View.ofScope scope).SeesNone identity := by
    rw [Event.isOutside, named, Option.any_some, List.all_eq_true] at outside
    intro pair member
    exact Bool.not_eq_true' _ ▸ outside pair member
  have throttle := shows.guard.throttle
  cases event with
  | check gate identity =>
      cases gate with
      | throttle =>
          refine ⟨_, rfl, shows.guard.rules_eq, ?_⟩
          show Throttle.Shows _ (first.guard.throttle.satisfy identity first.now).2 _
          rw [Throttle.satisfy_eq_visit]
          exact throttle.visit_unseen made () (unseen rfl)
      | login => cases metering
      | list kind => cases metering
  | reset gate identity =>
      cases gate with
      | throttle =>
          refine ⟨_, rfl, shows.guard.rules_eq, ?_⟩
          show Throttle.Shows _ (first.guard.throttle.reset identity first.now).2 _
          rw [Throttle.reset_eq_visit made]
          exact throttle.visit_unseen made () (unseen rfl)
      | login => cases metering
      | list kind => cases metering
  | allowed identity =>
      refine ⟨_, rfl, shows.guard.rules_eq, ?_⟩
      show Throttle.Shows _ (first.guard.throttle.allowed identity first.now).2 _
      rw [Throttle.allowed_eq_visit]
      exact throttle.visit_unseen made largestCount (unseen rfl)
  | _ => cases outside

/-- What is asked for from outside is not noticed, since no sweep is due after it. -/
theorem Shows.step_outside (shows : Shows (View.ofScope scope) first second)
    (made : first.guard.throttle.meters ≠ none) (settled : first.Settled)
    (metering : event.isMetering = true) (outside : event.isOutside scope = true) :
    Shows (View.ofScope scope) (first.step event).station second := by
  obtain ⟨guard, reacted, showsGuard⟩ := shows.react_outside made metering outside
  have settledAfter : Settled { first with guard := guard } := settled
  simp only [Station.step, reacted, settledAfter.keepHouse_eq]
  exact ⟨shows.now_eq, shows.watch_eq, shows.steady, showsGuard⟩

/-! ### Runs -/

section Runs

variable {store : LimitStore} {capacity : String → Option Nat}
  (proper : ∀ dimension, capacity dimension ≠ none → isDimensionName dimension = true)

include proper

/-- A run, and the rest of it at a station that looks alike in the scope. -/
theorem Shows.run_outside (shows : Shows (View.ofScope scope) first second)
    (laidOut : first.guard.throttle.LaidOut store capacity) (settled : first.Settled)
    {events : List Event} (metering : ∀ event ∈ events, event.isMetering = true)
    (whole : ∀ event ∈ events, event.isWhole scope = true) :
    let kept := events.filter fun event => !event.isOutside scope
    ((first.transcript events).filter fun entry =>
          !entry.event.isOutside scope && !entry.event.isSummary).map
        (fun entry => (entry.event, entry.result)) =
      ((second.transcript kept).filter fun entry => !entry.event.isSummary).map
        (fun entry => (entry.event, entry.result)) ∧
    Shows (View.ofScope scope) (first.run events) (second.run kept) := by
  induction events generalizing first second with
  | nil => exact ⟨rfl, shows⟩
  | cons event rest inductionHypothesis =>
      have meteringNow := metering event List.mem_cons_self
      have meteringLater other member := metering other (List.mem_cons_of_mem event member)
      have wholeLater other member := whole other (List.mem_cons_of_mem event member)
      have laidOutLater : (first.step event).station.guard.throttle.LaidOut store capacity :=
        laidOut_run laidOut [event]
      have settledLater := settled_step settled event
      cases outside : event.isOutside scope with
      | true =>
          have showsLater := shows.step_outside laidOut.made settled meteringNow outside
          have later := inductionHypothesis showsLater laidOutLater settledLater meteringLater
            wholeLater
          simpa only [transcript, run_cons, List.filter_cons, outside, Bool.not_true,
            Bool.false_and, Bool.false_eq_true, if_false] using later
      | false =>
          have visible := Event.visible_of_isWhole meteringNow (whole event List.mem_cons_self)
            outside
          have namedAfter : (first.react event).2.guard.throttle.ServesNamed :=
            (react_preserves (fun throttle => throttle.LaidOut store capacity)
              (fun move kept => move.laidOut kept) Throttle.laidOut_of_evict
              Throttle.laidOut_of_withdraw first event laidOut).servesNamed proper
          obtain ⟨answer, showsLater⟩ :=
            shows.step (laidOut.servesNamed proper) namedAfter visible
          rw [Event.rename_ofScope] at answer showsLater
          obtain ⟨later, ends⟩ := inductionHypothesis showsLater laidOutLater settledLater
            meteringLater wholeLater
          simp only [transcript, run_cons, List.filter_cons, outside, Bool.not_false,
            Bool.true_and, if_true]
          refine ⟨?_, ends⟩
          cases summary : event.isSummary with
          | true => simpa only [Bool.not_true, Bool.false_eq_true, if_false] using later
          | false =>
              simp only [Bool.not_false, if_true, List.map_cons, answer summary]
              exact congrArg _ later

end Runs

/-- At a station with meters for dimensions with proper names, whatever clients ask for with
values out of a scope can be left out of a run: every other event has the same result, as long as
it does not count the buckets of everybody, and every bucket in the scope is the same at the
end. -/
theorem clients_isolated (station : Station) (scope : String → String → Bool)
    (made : station.guard.throttle.meters ≠ none)
    (named : ∀ dimension ∈ station.guard.throttle.dimensions, isDimensionName dimension = true)
    (settled : station.Settled) (steady : station.watch.Steady) (events : List Event)
    (metering : ∀ event ∈ events, event.isMetering = true)
    (whole : ∀ event ∈ events, event.isWhole scope = true) :
    let kept := events.filter fun event => !event.isOutside scope
    ((station.transcript events).filter fun entry =>
          !entry.event.isOutside scope && !entry.event.isSummary).map
        (fun entry => (entry.event, entry.result)) =
      ((station.transcript kept).filter fun entry => !entry.event.isSummary).map
        (fun entry => (entry.event, entry.result)) ∧
    ∀ dimension value, scope dimension value = true →
      (station.run kept).guard.throttle.bucketAt? dimension value =
        (station.run events).guard.throttle.bucketAt? dimension value := by
  intro kept
  have laidOut := Throttle.laidOut_self made
  have proper : ∀ dimension, station.guard.throttle.capacityAt? dimension ≠ none →
      isDimensionName dimension = true := fun dimension limited =>
    named dimension (Throttle.mem_dimensions_iff.2 limited)
  have shows : Shows (View.ofScope scope) station station :=
    ⟨rfl, rfl, steady, rfl, rfl, fun _ => rfl⟩
  obtain ⟨same, ends⟩ := shows.run_outside proper laidOut settled metering whole
  exact ⟨same, fun dimension value seen => ends.guard.throttle.bucketAt?_eq seen⟩

/-- A station after the first check of a client. -/
def metered : Station :=
  run (.new ⟨.new .never, .new (.reliable [.plain "ip" 4, .plain "login" 3]) ⟨1, ⟨5⟩⟩⟩)
    [.check .throttle (.ofPairs [("ip", "10.0.0.8"), ("login", "root")])]

/-- The values of that client. -/
def household (dimension value : String) : Bool :=
  (dimension, value) == ("ip", "10.0.0.8") || (dimension, value) == ("login", "root")

/-- Another client comes along, spends what it has, is forgiven and comes again, while the cost
is raised and sweeps go by. -/
def neighbours : List Event :=
  let client := Identity.ofPairs [("ip", "10.0.0.8"), ("login", "root")]
  let other := Identity.ofPairs [("ip", "10.0.0.9"), ("login", "toor")]
  [.check .throttle other, .check .throttle other, .startHousekeeper ⟨5⟩ ⟨3⟩ 0, .setCost 2,
    .check .throttle client, .allowed other, .reset .throttle other, .advance ⟨7⟩,
    .check .throttle other, .sweep ⟨2⟩ 0, .allowed client]

/-- Five events of another client can be left out, although it has buckets in the end. -/
theorem neighbours_isolated :
    let kept := neighbours.filter fun event => !event.isOutside household
    kept.length = 6 ∧ (metered.run neighbours).guard.throttle.bucketCount = 4 ∧
      (metered.run kept).guard.throttle.bucketCount = 2 ∧
      ∀ dimension value, household dimension value = true →
        (metered.run kept).guard.throttle.bucketAt? dimension value =
          (metered.run neighbours).guard.throttle.bucketAt? dimension value := by
  intro kept
  refine ⟨by decide +kernel, by decide +kernel, by decide +kernel, ?_⟩
  exact (clients_isolated metered household (by decide +kernel) (by decide +kernel) trivial trivial
    neighbours (by decide +kernel) (by decide +kernel)).2

end Station

end LoginThrottle
