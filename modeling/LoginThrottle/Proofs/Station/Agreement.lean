import LoginThrottle.Proofs.Guard.Linearization
import LoginThrottle.Proofs.Station.Invariant
import LoginThrottle.Proofs.Throttle.Refusal

/-!
# Throttles and their meters agree

The cost of an attempt is kept in several places: the throttle has it and so has each of its
meters.  It is set in all of them at once, and meters that are made later are given the cost
that the throttle has then.  So they never differ.

## Main Definitions

* `Station.Event.cost?`, `Station.lastCost?`: the cost that was set by an event or last in a run

## Main Statements

* `Station.cost_step`, `Station.cost_run`: the cost of a throttle is the one that was set last
* `Station.meters_agree`: in every run the meters have the cost of their throttle, and all buckets
  have the shape that their meters prescribe
-/

namespace LoginThrottle

/-! ### What leaves the cost alone -/

namespace Throttle

variable {Token Answer : Type} {use : Usage Token Answer} {finish : Token → Answer}
  {throttle after : Throttle} {key : String}

/-- Visits do not change the cost. -/
theorem cost_visit (token : Token) (throttle : Throttle) (identity : Identity) :
    (throttle.visit use finish token identity).2.cost = throttle.cost := by
  have ensured := throttle.cost_ensureMeters identity
  unfold visit
  split
  · rfl
  · split
    · next failed => rwa [failed] at ensured
    · next made => rwa [made] at ensured

theorem cost_reset (throttle : Throttle) (identity : Identity) (now : Instant) :
    (throttle.reset identity now).2.cost = throttle.cost := by
  unfold reset
  split
  · rfl
  · split <;> rfl

theorem cost_of_evict (evicted : throttle.evict key = .ok after) :
    after.cost = throttle.cost := by
  obtain ⟨dimension, value, meter, -, -, rfl⟩ := exists_of_evict evicted
  rfl

theorem cost_of_adjustBucket {change : Bucket → Bucket}
    (adjusted : throttle.adjustBucket key change = some after) : after.cost = throttle.cost := by
  obtain ⟨chosen, rfl⟩ := exists_of_adjustBucket adjusted
  rfl

end Throttle

namespace Guard

/-- Checks do not change the cost, whatever they are asked at. -/
theorem cost_check (guard : Guard) (gate : Gate) (identity : Identity) (now : Instant) :
    (guard.check gate identity now).2.throttle.cost = guard.throttle.cost := by
  have satisfied (other : Guard) :
      (other.throttle.satisfy identity now).2.cost = other.throttle.cost := by
    rw [Throttle.satisfy_eq_visit, Throttle.cost_visit]
  cases gate with
  | throttle => exact satisfied guard
  | list kind => exact congrArg Throttle.cost (guard.throttle_checkList kind identity)
  | login =>
      have screened := congrArg Throttle.cost (guard.throttle_screen identity)
      rw [check, decide]
      cases answered : guard.screen identity with
      | mk result after =>
          rw [answered] at screened
          rcases result with fault | _ | _ | _
          · exact screened
          · exact screened
          · exact screened
          · exact (satisfied after).trans screened

theorem cost_checkEach (guard : Guard) (gate : Gate) (identities : List Identity)
    (now : Instant) :
    (guard.checkEach gate identities now).2.throttle.cost = guard.throttle.cost := by
  induction identities generalizing guard with
  | nil => rfl
  | cons identity others inductionHypothesis =>
      exact (inductionHypothesis _).trans (guard.cost_check gate identity now)

theorem cost_reset (guard : Guard) (gate : Gate) (identity : Identity) (now : Instant) :
    (guard.reset gate identity now).2.throttle.cost = guard.throttle.cost := by
  cases gate with
  | list kind => rfl
  | _ => exact guard.throttle.cost_reset identity now

end Guard

/-! ### The cost that was set last -/

namespace Station

/-- The cost that an event sets. -/
def Event.cost? : Event → Option Nat
  | .setCost cost => some cost
  | _ => none

/-- The cost that was set last in a run. -/
def lastCost? : List Event → Option Nat
  | [] => none
  | event :: events => (lastCost? events).or event.cost?

/-- A cost as it is kept: at least one. -/
def keptCost (set : Option Nat) (before : Nat) : Nat :=
  (set.map fun cost => max cost 1).getD before

theorem cost_react (station : Station) (event : Event) :
    (station.react event).2.guard.throttle.cost =
      keptCost event.cost? station.guard.throttle.cost := by
  cases event with
  | check gate identity => exact station.guard.cost_check gate identity station.now
  | checkAll gate identities =>
      rw [react, Guard.checkAll_eq_checkEach]
      exact station.guard.cost_checkEach gate identities station.now
  | reset gate identity => exact station.guard.cost_reset gate identity station.now
  | allowed identity =>
      change (station.guard.throttle.allowed identity station.now).2.cost = _
      rw [Throttle.allowed_eq_visit, Throttle.cost_visit]
      rfl
  | evict key =>
      simp only [react]
      cases result : station.guard.throttle.evict key with
      | error fault => rfl
      | ok after => exact Throttle.cost_of_evict result
  | withdraw key cost =>
      simp only [react]
      cases result : station.guard.throttle.adjustBucket key
          (fun bucket => bucket.withdraw cost) with
      | none => rfl
      | some after => exact Throttle.cost_of_adjustBucket result
  | sweep ttl failures =>
      exact Throttle.sweep_preserves (fun other => other.cost = station.guard.throttle.cost)
        (fun evicted same => (Throttle.cost_of_evict evicted).trans same) ttl station.now failures
        rfl
  | _ => rfl

/-- The sweeps that are due after an event leave the cost that it set. -/
theorem cost_step (station : Station) (event : Event) :
    (station.step event).station.guard.throttle.cost =
      keptCost event.cost? station.guard.throttle.cost := by
  have reacted := station.cost_react event
  exact Throttle.runDue_preserves
    (fun other => other.cost = keptCost event.cost? station.guard.throttle.cost)
    (fun evicted same => (Throttle.cost_of_evict evicted).trans same) _ _ reacted

/-- The cost of a throttle is the one that was set last. -/
theorem cost_run (station : Station) (events : List Event) :
    (station.run events).guard.throttle.cost =
      keptCost (lastCost? events) station.guard.throttle.cost := by
  induction events generalizing station with
  | nil => rfl
  | cons event rest inductionHypothesis =>
      rw [run_cons, inductionHypothesis, cost_step, lastCost?]
      cases lastCost? rest with
      | none => rfl
      | some cost => rfl

/-- The rate is never changed. -/
theorem rate_run (station : Station) (events : List Event) :
    (station.run events).guard.throttle.rate = station.guard.throttle.rate := by
  refine run_preserves (fun throttle => throttle.rate = station.guard.throttle.rate)
    (fun move same => move.rate_eq.trans same) ?_ ?_ station events rfl
  · intro first second key evicted same
    obtain ⟨dimension, value, meter, -, -, rfl⟩ := Throttle.exists_of_evict evicted
    exact same
  · intro first second key cost adjusted same
    obtain ⟨chosen, rfl⟩ := Throttle.exists_of_adjustBucket adjusted
    exact same

/-! ### Agreement -/

/-- **Throttles and their meters agree in every run.**  The cost of a throttle is the one that was
set last, wherever in the run that was, or the default, and it is at least one.  Every meter is
filed under its own dimension and has this cost, and every bucket has the capacity of its meter
and the rate of the throttle and holds no more than that capacity. -/
theorem meters_agree (store : LimitStore) (rate : RefillRate) (rules : RuleStore) (watch : Watch)
    (now : Instant) (events : List Event) :
    let throttle := (run ⟨now, ⟨rules, .new store rate⟩, watch⟩ events).guard.throttle
    throttle.cost = max 1 ((lastCost? events).getD defaultCost) ∧ 1 ≤ throttle.cost ∧
      throttle.rate = rate ∧
      ∀ dimension meter, throttle.currentMeters.find? dimension = some meter →
        meter.dimension = dimension ∧ meter.cost = throttle.cost ∧
        ∀ value bucket, meter.buckets.find? value = some bucket →
          bucket.capacity = meter.capacity ∧ bucket.rate = throttle.rate ∧
            bucket.tokens ≤ meter.capacity := by
  intro throttle
  have reachable : throttle.Reachable := ⟨_, events, rfl, rfl⟩
  have cost_eq : throttle.cost = max 1 ((lastCost? events).getD defaultCost) := by
    have set := cost_run ⟨now, ⟨rules, .new store rate⟩, watch⟩ events
    refine set.trans ?_
    cases lastCost? events with
    | none => rfl
    | some cost => exact Nat.max_comm cost 1
  have positive : 1 ≤ throttle.cost := cost_eq ▸ Nat.le_max_left 1 _
  have rate_eq : throttle.rate = rate := rate_run _ events
  refine ⟨cost_eq, positive, rate_eq, ?_⟩
  intro dimension meter served
  have sound := reachable.sound dimension meter served
  refine ⟨sound.dimension_eq, sound.cost_eq.trans (Nat.max_eq_left positive), ?_⟩
  intro value bucket held
  obtain ⟨capacity_eq, bucket_rate_eq, tokens_le⟩ := sound.fits value bucket held
  exact ⟨capacity_eq, bucket_rate_eq.trans sound.rate_eq, tokens_le⟩

/-- A station whose first fetch fails. -/
def priceless : Station :=
  ⟨.origin, ⟨.new .never, .new (.failingAtFirst [.plain "ip" 5, .plain "login" 7] 1) ⟨1, ⟨5⟩⟩⟩,
    .absent⟩

/-- A cost of nothing that is set before a fetch that fails, a cost that is set before the fetch
that makes the meters, and one that is set behind it. -/
def repriced : List Event :=
  let client := Identity.ofClient "10.0.0.8" "root"
  [.setCost 0, .check .throttle client, .setCost 5, .check .throttle client, .setCost 2,
    .allowed client]

/-- The last of the costs counts in both meters. -/
theorem repriced_agrees :
    let throttle := (priceless.run repriced).guard.throttle
    throttle.cost = 2 ∧ throttle.dimensions = ["ip", "login"] ∧
      ∀ dimension meter, throttle.currentMeters.find? dimension = some meter →
        meter.dimension = dimension ∧ meter.cost = 2 := by
  intro throttle
  obtain ⟨cost_eq, -, -, each⟩ := meters_agree _ _ _ _ _ repriced
  have priced : throttle.cost = 2 := cost_eq.trans (by decide +kernel)
  refine ⟨priced, by decide +kernel, fun dimension meter served => ?_⟩
  obtain ⟨named, same, -⟩ := each dimension meter served
  exact ⟨named, same.trans priced⟩

end Station

end LoginThrottle
