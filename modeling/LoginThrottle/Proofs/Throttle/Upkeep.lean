import LoginThrottle.Housekeeper
import LoginThrottle.Proofs.Throttle.Sound

/-!
# Dealing with buckets by their keys

Whoever has the key of a bucket can have it forgotten or take tokens out of it.  Both change
nothing but buckets, whatever the key is, and a sweep is nothing but evictions.

## Main Statements

* `Throttle.exists_of_evict`, `Throttle.exists_of_adjustBucket`: what becomes of the meters
* `Throttle.sweep_preserves`, `Watch.runDue_preserves`: what every eviction preserves is
  preserved by sweeps and by housekeepers
* `Throttle.sound_of_evict`, `Throttle.sound_of_withdraw`: a sound throttle stays sound
-/

namespace LoginThrottle

namespace Throttle

variable {throttle after : Throttle} {key : String}

/-- An eviction takes one bucket away, if it is there, from the meter that the key leads to. -/
theorem exists_of_evict (evicted : throttle.evict key = .ok after) :
    ∃ dimension value meter, splitKey key = some (dimension, value) ∧
      throttle.currentMeters.find? dimension = some meter ∧
      after = throttle.withMeter dimension (meter.withBucket value none) := by
  unfold evict at evicted
  split at evicted
  · cases evicted
  · next dimension value parts =>
      split at evicted
      · cases evicted
      · next meter served =>
          obtain rfl := Except.ok.inj evicted
          exact ⟨dimension, value, meter, parts, served, rfl⟩

/-- Buckets that are dealt with by their key are changed where they are. -/
theorem exists_of_adjustBucket {change : Bucket → Bucket}
    (adjusted : throttle.adjustBucket key change = some after) :
    ∃ chosen : String → String → Bool,
      after = { throttle with
        meters := throttle.meters.map fun meters => meters.mapEntries fun dimension meter =>
          { meter with
            buckets := meter.buckets.mapEntries fun value bucket =>
              if chosen dimension value then change bucket else bucket } } := by
  unfold adjustBucket at adjusted
  split at adjusted
  · cases adjusted
  · refine ⟨fun dimension value => decide (bucketKey dimension value = key), ?_⟩
    rw [← Option.some.inj adjusted]
    simp only [decide_eq_true_eq]

/-! ### Sweeps are evictions -/

section Preserves

variable (Invariant : Throttle → Prop)
  (keeps : ∀ {first second : Throttle} {key : String},
    first.evict key = .ok second → Invariant first → Invariant second)

include keeps

theorem deleteAll_preserves (keys : List String) (failures : Nat) (holds : Invariant throttle) :
    Invariant (Sweep.deleteAll evict keys failures throttle).state := by
  induction keys generalizing throttle with
  | nil => exact holds
  | cons key rest inductionHypothesis =>
      cases failures with
      | succ fewer => exact holds
      | zero =>
          rw [Sweep.deleteAll]
          cases evicted : throttle.evict key with
          | error fault => exact holds
          | ok after => exact inductionHypothesis (keeps evicted holds)

/-- What every eviction preserves is preserved by a sweep. -/
theorem sweep_preserves (ttl : Duration) (now : Instant) (failures : Nat)
    (holds : Invariant throttle) : Invariant (throttle.sweep ttl now failures).state :=
  deleteAll_preserves Invariant keeps _ failures holds

theorem sweepTimes_preserves (now : Instant) (count : Nat) (keeper : Housekeeper)
    (holds : Invariant throttle) :
    Invariant (Housekeeper.sweepTimes now count keeper throttle).2.2 := by
  induction count generalizing keeper throttle with
  | zero => exact holds
  | succ more inductionHypothesis =>
      exact inductionHypothesis _ (sweep_preserves Invariant keeps _ now _ holds)

/-- What every eviction preserves is preserved by the sweeps of a housekeeper that are due. -/
theorem runDue_preserves (watch : Watch) (now : Instant) (holds : Invariant throttle) :
    Invariant (watch.runDue throttle now).2.2 := by
  cases watch with
  | running keeper => exact sweepTimes_preserves Invariant keeps now _ keeper holds
  | _ => exact holds

end Preserves

/-! ### Sound throttles -/

theorem sound_of_evict (evicted : throttle.evict key = .ok after) (sound : throttle.Sound) :
    after.Sound := by
  obtain ⟨dimension, value, meter, -, served, rfl⟩ := exists_of_evict evicted
  intro name other found
  rw [find?_withMeter] at found
  split at found
  · next same =>
      subst same
      obtain rfl := Option.some.inj found
      refine (sound name meter served).withBucket value ?_
      rintro bucket ⟨⟩
  · exact sound name other found

theorem sound_of_withdraw {cost : Nat}
    (adjusted : throttle.adjustBucket key (fun bucket => bucket.withdraw cost) = some after)
    (sound : throttle.Sound) : after.Sound := by
  obtain ⟨chosen, rfl⟩ := exists_of_adjustBucket adjusted
  intro name meter found
  cases made : throttle.meters with
  | none =>
      rw [currentMeters, made] at found
      cases found
  | some meters =>
      rw [currentMeters, made, Option.map_some, Option.getD_some, Keyed.find?_mapEntries,
        Option.map_eq_some_iff] at found
      obtain ⟨old, served, rfl⟩ := found
      have soundOld := sound name old (by rw [currentMeters, made, Option.getD_some, served])
      refine ⟨soundOld.dimension_eq, soundOld.capacity_eq, soundOld.rate_eq, soundOld.cost_eq, ?_⟩
      intro value bucket filed
      rw [Keyed.find?_mapEntries, Option.map_eq_some_iff] at filed
      obtain ⟨held, kept, rfl⟩ := filed
      have fits := soundOld.fits value held kept
      split
      · exact fits.withdraw cost
      · exact fits

end Throttle

end LoginThrottle
