import LoginThrottle.Housekeeper
import LoginThrottle.Proofs.BucketKey
import LoginThrottle.Proofs.Throttle.Sound

/-!
# Sweeps as moves

A sweep forgets full buckets only, whether it comes to its end or a deletion fails.

## Main Definitions

* `Throttle.Named`: the stored limits are for dimensions that have proper names
* `Throttle.Forgettable`: a key leads to a full bucket or to none

## Main Statements

* `Throttle.mem_buckets`: every bucket by key is the bucket of a value in a served dimension
* `Throttle.moves_sweep`: a sweep makes moves without deeds
* `Watch.moves_runDue`: so do all sweeps of a housekeeper that are due
-/

namespace LoginThrottle

namespace Throttle

variable {throttle : Throttle} {now : Instant}

/-- The stored limits are for dimensions that have proper names. -/
def Named (throttle : Throttle) : Prop :=
  ∀ limit ∈ throttle.store.limits, isDimensionName limit.dimension = true

instance (throttle : Throttle) : Decidable throttle.Named :=
  inferInstanceAs (Decidable (∀ limit ∈ throttle.store.limits,
    isDimensionName limit.dimension = true))

theorem Moves.named {first second : Throttle} {deeds : List Deed}
    (moves : Moves now first deeds second) (named : first.Named) : second.Named := by
  unfold Named
  rw [moves.limits_eq]
  exact named

/-- The dimensions that are served have proper names. -/
theorem Sound.isDimensionName (sound : throttle.Sound) (named : throttle.Named)
    {dimension : String} {meter : Meter}
    (served : throttle.currentMeters.find? dimension = some meter) :
    isDimensionName dimension = true := by
  obtain ⟨limit, stored, rfl, _⟩ :=
    Limit.exists_of_capacityOf? (sound dimension meter served).capacity_eq
  exact named limit stored

/-! ### Keys of full buckets -/

/-- Every bucket by key is the bucket of a value in a served dimension. -/
theorem mem_buckets {key : String} {bucket : Bucket}
    (entry : (key, bucket) ∈ throttle.buckets.entries) :
    ∃ dimension meter value, throttle.currentMeters.find? dimension = some meter ∧
      key = bucketKey dimension value ∧ throttle.bucketAt? dimension value = some bucket := by
  have filed := Keyed.mem_of_find?_ofPairs (Keyed.find?_eq_some_iff.2 entry)
  obtain ⟨⟨dimension, meter⟩, served, inMeter⟩ := List.mem_flatMap.1 filed
  obtain ⟨⟨value, held⟩, kept, same⟩ := List.mem_map.1 inMeter
  obtain ⟨rfl, rfl⟩ := Prod.mk.inj same
  have found := Keyed.find?_eq_some_iff.2 served
  refine ⟨dimension, meter, value, found, rfl, ?_⟩
  rw [bucketAt?, found]
  exact Keyed.find?_eq_some_iff.2 kept

/-- A key leads to a full bucket or to none. -/
def Forgettable (throttle : Throttle) (key : String) : Prop :=
  ∃ dimension value, key = bucketKey dimension value ∧ isDimensionName dimension = true ∧
    ∀ bucket, throttle.bucketAt? dimension value = some bucket → bucket.isFull = true

theorem forgettable_of_mem_expired (sound : throttle.Sound) (named : throttle.Named)
    {ttl : Duration} {key : String} (selected : key ∈ Sweep.expired throttle.buckets ttl now) :
    throttle.Forgettable key := by
  obtain ⟨⟨_, bucket⟩, kept, rfl⟩ := List.mem_map.1 selected
  obtain ⟨entry, expired⟩ := List.mem_filter.1 kept
  obtain ⟨dimension, meter, value, served, same, found⟩ := mem_buckets entry
  refine ⟨dimension, value, same, sound.isDimensionName named served, ?_⟩
  intro other foundToo
  obtain rfl := Option.some.inj (found.symm.trans foundToo)
  exact (Bool.and_eq_true_iff.1 expired).1

/-- Forgetting a full bucket is a move, and it leaves forgettable keys forgettable. -/
theorem move_of_evict {after : Throttle} {key : String} (forgettable : throttle.Forgettable key)
    (evicted : throttle.evict key = .ok after) :
    Move now throttle [] after ∧
      ∀ other, throttle.Forgettable other → after.Forgettable other := by
  obtain ⟨dimension, value, rfl, named, full⟩ := forgettable
  rw [evict, splitKey_bucketKey named] at evicted
  cases served : throttle.currentMeters.find? dimension with
  | none =>
      simp only [served] at evicted
      cases evicted
  | some meter =>
      simp only [served] at evicted
      obtain rfl := Except.ok.inj evicted
      constructor
      · have touch : Bucket.Touch meter.capacity meter.rate meter.cost now
            (meter.buckets.find? value) .kept none := by
          rw [bucketAt?, served, Option.bind_some] at full
          cases held : meter.buckets.find? value with
          | none => exact .miss rfl
          | some bucket => exact .forget (full bucket held)
        exact .touch served value touch
      · rintro _ ⟨other, name, rfl, namedToo, fullToo⟩
        refine ⟨other, name, rfl, namedToo, ?_⟩
        intro bucket found
        apply fullToo bucket
        have left : ((throttle.withMeter dimension (meter.evict value)).currentMeters.find?
            other).bind (fun meter => meter.buckets.find? name) = some bucket := found
        rw [find?_withMeter] at left
        rw [bucketAt?]
        -- Only one bucket is gone, so a bucket that is left was there before.
        by_cases same : other = dimension
        · subst same
          rw [if_pos rfl] at left
          have held : (meter.buckets.erase value).find? name = some bucket := left
          rw [Keyed.find?_erase] at held
          split at held
          · cases held
          · rw [served]
            exact held
        · rwa [if_neg same] at left

/-- Deleting forgettable keys makes moves without deeds, however many deletions fail. -/
theorem moves_deleteAll {keys : List String} (failures : Nat)
    (forgettable : ∀ key ∈ keys, throttle.Forgettable key) :
    Moves now throttle [] (Sweep.deleteAll evict keys failures throttle).state := by
  induction keys generalizing throttle with
  | nil => exact .none throttle
  | cons key rest inductionHypothesis =>
      cases failures with
      | succ fewer => exact .none throttle
      | zero =>
          rw [Sweep.deleteAll]
          cases evicted : throttle.evict key with
          | error fault => exact .none throttle
          | ok after =>
              obtain ⟨move, keeps⟩ := move_of_evict (forgettable key List.mem_cons_self) evicted
              have others := inductionHypothesis fun other member =>
                keeps other (forgettable other (List.mem_cons_of_mem _ member))
              exact .more move others

/-- A sweep makes moves without deeds. -/
theorem moves_sweep (sound : throttle.Sound) (named : throttle.Named) (ttl : Duration)
    (now : Instant) (failures : Nat) :
    Moves now throttle [] (throttle.sweep ttl now failures).state :=
  moves_deleteAll failures fun _ selected => forgettable_of_mem_expired sound named selected

end Throttle

/-! ### Housekeepers -/

theorem Housekeeper.moves_sweepTimes (now : Instant) (count : Nat) (keeper : Housekeeper)
    {throttle : Throttle} (sound : throttle.Sound) (named : throttle.Named) :
    Throttle.Moves now throttle [] (sweepTimes now count keeper throttle).2.2 := by
  induction count generalizing keeper throttle with
  | zero => exact .none throttle
  | succ more inductionHypothesis =>
      have swept := Throttle.moves_sweep sound named keeper.ttl now keeper.failures
      exact swept.trans
        (inductionHypothesis (keeper.sweepOnce throttle now).2.1 (swept.sound sound)
          (swept.named named))

/-- All sweeps of a housekeeper that are due make moves without deeds. -/
theorem Watch.moves_runDue (watch : Watch) {throttle : Throttle} (sound : throttle.Sound)
    (named : throttle.Named) (now : Instant) :
    Throttle.Moves now throttle [] (watch.runDue throttle now).2.2 := by
  cases watch with
  | running keeper => exact keeper.moves_sweepTimes now _ sound named
  | _ => exact .none throttle

end LoginThrottle
