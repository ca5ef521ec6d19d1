import LoginThrottle.Proofs.Station.Log
import LoginThrottle.Proofs.Throttle.Upkeep

/-!
# What stays true at a station

Some events make moves of the throttle, others deal with buckets by their keys, and the
housekeeper evicts.  What all three preserve holds after every run.

## Main Definitions

* `Throttle.Reachable`: the throttle of a station that began without meters, after any events

## Main Statements

* `Station.step_preserves`, `Station.run_preserves`: the induction over runs
* `Throttle.Reachable.sound`: a throttle that can be reached is sound, even if the clock ran
  backwards and buckets were dealt with by their keys
-/

namespace LoginThrottle

namespace Station

section Preserves

variable (Invariant : Throttle → Prop)
  (moved : ∀ {now : Instant} {first second : Throttle} {deeds : List Deed},
    Throttle.Move now first deeds second → Invariant first → Invariant second)
  (evicted : ∀ {first second : Throttle} {key : String},
    first.evict key = .ok second → Invariant first → Invariant second)
  (drained : ∀ {first second : Throttle} {key : String} {cost : Nat},
    first.adjustBucket key (fun bucket => bucket.withdraw cost) = some second →
      Invariant first → Invariant second)

include moved evicted drained

theorem react_preserves (station : Station) (event : Event)
    (holds : Invariant station.guard.throttle) :
    Invariant (station.react event).2.guard.throttle := by
  have along {deeds : List Deed} {after : Throttle}
      (moves : Throttle.Moves station.now station.guard.throttle deeds after) : Invariant after :=
    moves.preserves Invariant moved holds
  cases event with
  | check gate identity => exact along (station.guard.moves_check gate identity station.now)
  | checkAll gate identities =>
      exact along (station.guard.moves_checkAll gate identities station.now)
  | reset gate identity => exact along (station.guard.moves_reset gate identity station.now)
  | allowed identity => exact along (station.guard.throttle.moves_allowed identity station.now)
  | setCost cost => exact along (Throttle.Move.price station.guard.throttle cost).alone
  | evict key =>
      simp only [react]
      cases result : station.guard.throttle.evict key with
      | error fault => exact holds
      | ok after => exact evicted result holds
  | withdraw key cost =>
      simp only [react]
      cases result : station.guard.throttle.adjustBucket key
          (fun bucket => bucket.withdraw cost) with
      | none => exact holds
      | some after => exact drained result holds
  | sweep ttl failures =>
      exact Throttle.sweep_preserves Invariant evicted ttl station.now failures holds
  | _ => exact holds

/-- What moves, evictions and withdrawals preserve is preserved by an event and by the sweeps
that are due after it. -/
theorem step_preserves (station : Station) (event : Event)
    (holds : Invariant station.guard.throttle) :
    Invariant (station.step event).station.guard.throttle :=
  Throttle.runDue_preserves Invariant evicted _ _
    (react_preserves Invariant moved evicted drained station event holds)

/-- What moves, evictions and withdrawals preserve holds after every run. -/
theorem run_preserves (station : Station) (events : List Event)
    (holds : Invariant station.guard.throttle) :
    Invariant (station.run events).guard.throttle := by
  induction events generalizing station with
  | nil => exact holds
  | cons event rest inductionHypothesis =>
      rw [run_cons]
      exact inductionHypothesis _
        (step_preserves Invariant moved evicted drained station event holds)

end Preserves

theorem sound_run {station : Station} (sound : station.guard.throttle.Sound)
    (events : List Event) : (station.run events).guard.throttle.Sound :=
  run_preserves Throttle.Sound (fun move => move.sound) Throttle.sound_of_evict
    Throttle.sound_of_withdraw station events sound

end Station

/-! ### Throttles that can be reached -/

/-- The throttle of a station that began without meters, after any events. -/
def Throttle.Reachable (throttle : Throttle) : Prop :=
  ∃ (station : Station) (events : List Station.Event),
    station.guard.throttle.meters = none ∧ (station.run events).guard.throttle = throttle

theorem Throttle.Reachable.sound {throttle : Throttle} (reachable : throttle.Reachable) :
    throttle.Sound := by
  obtain ⟨station, events, unmade, rfl⟩ := reachable
  exact Station.sound_run (Throttle.sound_of_none unmade) events

end LoginThrottle
