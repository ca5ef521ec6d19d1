import LoginThrottle.Proofs.Throttle.Move

/-!
# What stays true of a throttle

Every meter belongs to a stored limit and has the rate and the cost of the throttle, and all
of its buckets fit it.  No move changes that.

## Main Definitions

* `Meter.Sound`, `Throttle.Sound`: meters agree with the limits, the rate and the cost
* `Throttle.RefilledBy`: no bucket was refilled after a reading

## Main Statements

* `Throttle.Moves.sound`: moves keep a throttle sound
* `Throttle.Moves.limits_eq`, `Throttle.Moves.rate_eq`: moves change neither limits nor rate
* `Throttle.Moves.cost_eq`: they change the cost only if that is among their deeds
* `Throttle.Moves.refilledBy`: moves at a reading refill no bucket after it
-/

namespace LoginThrottle

/-- A meter agrees with its limit and with the rate and the cost of its throttle, and its
buckets fit it. -/
structure Meter.Sound (limits : List Limit) (rate : RefillRate) (cost : Nat) (name : String)
    (meter : Meter) : Prop where
  dimension_eq : meter.dimension = name
  capacity_eq : Limit.capacityOf? limits name = some meter.capacity
  rate_eq : meter.rate = rate
  cost_eq : meter.cost = max cost 1
  fits : ∀ value bucket, meter.buckets.find? value = some bucket →
    bucket.Fits meter.capacity meter.rate

namespace Meter

variable {limits : List Limit} {rate : RefillRate} {cost : Nat} {name : String} {meter : Meter}

theorem sound_new {capacity : Nat} (limited : Limit.capacityOf? limits name = some capacity)
    (rate : RefillRate) (cost : Nat) :
    ((Meter.new name capacity rate).setCost cost).Sound limits rate cost name where
  dimension_eq := rfl
  capacity_eq := limited
  rate_eq := rfl
  cost_eq := rfl
  fits := by
    intro value bucket found
    cases found

theorem Sound.setCost (sound : meter.Sound limits rate cost name) (other : Nat) :
    (meter.setCost other).Sound limits rate (max other 1) name where
  dimension_eq := sound.dimension_eq
  capacity_eq := sound.capacity_eq
  rate_eq := sound.rate_eq
  cost_eq := by
    change max other 1 = max (max other 1) 1
    omega
  fits := sound.fits

theorem Sound.withBucket (sound : meter.Sound limits rate cost name) (value : String)
    {held : Option Bucket}
    (fits : ∀ bucket, held = some bucket → bucket.Fits meter.capacity meter.rate) :
    (meter.withBucket value held).Sound limits rate cost name where
  dimension_eq := by rw [dimension_withBucket, sound.dimension_eq]
  capacity_eq := by rw [capacity_withBucket, sound.capacity_eq]
  rate_eq := by rw [rate_withBucket, sound.rate_eq]
  cost_eq := by rw [cost_withBucket, sound.cost_eq]
  fits := by
    intro other bucket found
    rw [capacity_withBucket, rate_withBucket]
    rw [find?_withBucket] at found
    split at found
    · exact fits bucket found
    · exact sound.fits other bucket found

end Meter

namespace Throttle

/-- Every meter agrees with its limit and with the throttle. -/
def Sound (throttle : Throttle) : Prop :=
  ∀ name meter, throttle.currentMeters.find? name = some meter →
    meter.Sound throttle.store.limits throttle.rate throttle.cost name

/-- No bucket was refilled after a reading. -/
def RefilledBy (throttle : Throttle) (now : Instant) : Prop :=
  ∀ dimension value bucket, throttle.bucketAt? dimension value = some bucket →
    bucket.lastRefill ≤ now

variable {now : Instant} {throttle first second : Throttle} {deeds : List Deed}

theorem sound_of_none (unmade : throttle.meters = none) : throttle.Sound := by
  intro name meter found
  rw [currentMeters_of_none unmade] at found
  cases found

theorem refilledBy_of_none (unmade : throttle.meters = none) (now : Instant) :
    throttle.RefilledBy now := by
  intro dimension value bucket found
  rw [bucketAt?_of_none unmade] at found
  cases found

theorem RefilledBy.mono {later : Instant} (refilled : throttle.RefilledBy now)
    (passed : now ≤ later) : throttle.RefilledBy later :=
  fun dimension value bucket found =>
    Int.le_trans (refilled dimension value bucket found) passed

theorem Sound.fits_bucketAt? (sound : throttle.Sound) {dimension : String} {meter : Meter}
    (served : throttle.currentMeters.find? dimension = some meter) (value : String) :
    ∀ bucket, throttle.bucketAt? dimension value = some bucket →
      bucket.Fits meter.capacity meter.rate := by
  intro bucket found
  rw [bucketAt?, served] at found
  exact (sound dimension meter served).fits value bucket found

/-! ### Moves -/

theorem Move.limits_eq (move : Move now first deeds second) :
    second.store.limits = first.store.limits := by
  cases move <;> rfl

theorem Move.outage_eq (move : Move now first deeds second) :
    second.store.outage = first.store.outage := by
  cases move <;> rfl

theorem Move.rate_eq (move : Move now first deeds second) : second.rate = first.rate := by
  cases move <;> rfl

theorem Move.cost_eq (move : Move now first deeds second)
    (unpriced : ∀ cost, Deed.priced cost ∉ deeds) : second.cost = first.cost := by
  cases move with
  | price cost => exact absurd List.mem_cons_self (unpriced cost)
  | _ => rfl

theorem Move.sound (move : Move now first deeds second) (sound : first.Sound) :
    second.Sound := by
  cases move with
  | fetch unmade => exact sound
  | adopt unmade dimensions =>
      intro name meter found
      simp only [currentMeters, Option.getD_some, find?_metersOf, Limit.capacityOf?_select,
        Option.map_eq_some_iff] at found
      obtain ⟨capacity, limited, rfl⟩ := found
      split at limited
      · exact Meter.sound_new limited _ _
      · cases limited
  | price cost =>
      intro name meter found
      rw [find?_setCost, Option.map_eq_some_iff] at found
      obtain ⟨meter, found, rfl⟩ := found
      exact (sound name meter found).setCost cost
  | @touch dimension meter served value effect held touch =>
      intro name other found
      rw [find?_withMeter] at found
      split at found
      · next same =>
          obtain rfl := Option.some.inj found
          subst same
          have soundBefore := sound name meter served
          exact soundBefore.withBucket value (touch.fits (soundBefore.fits value))
      · exact sound name other found
  | refuse => exact sound

theorem Move.refilledBy (move : Move now first deeds second) (refilled : first.RefilledBy now) :
    second.RefilledBy now := by
  intro dimension value bucket found
  rcases move.bucketAt?_cases dimension value with ⟨same, _⟩ | ⟨_, _, _, touch, _⟩
  · exact refilled dimension value bucket (same ▸ found)
  · exact touch.lastRefill_le (refilled dimension value) bucket found

theorem Moves.sound (moves : Moves now first deeds second) (sound : first.Sound) :
    second.Sound :=
  moves.preserves Throttle.Sound (fun move holds => move.sound holds) sound

theorem Moves.refilledBy (moves : Moves now first deeds second)
    (refilled : first.RefilledBy now) : second.RefilledBy now :=
  moves.preserves (fun throttle => throttle.RefilledBy now)
    (fun move holds => move.refilledBy holds) refilled

theorem Moves.limits_eq (moves : Moves now first deeds second) :
    second.store.limits = first.store.limits :=
  moves.preserves (fun throttle => throttle.store.limits = first.store.limits)
    (fun move same => move.limits_eq.trans same) rfl

theorem Moves.outage_eq (moves : Moves now first deeds second) :
    second.store.outage = first.store.outage :=
  moves.preserves (fun throttle => throttle.store.outage = first.store.outage)
    (fun move same => move.outage_eq.trans same) rfl

theorem Moves.rate_eq (moves : Moves now first deeds second) : second.rate = first.rate :=
  moves.preserves (fun throttle => throttle.rate = first.rate)
    (fun move same => move.rate_eq.trans same) rfl

theorem Moves.cost_eq (moves : Moves now first deeds second)
    (unpriced : ∀ cost, Deed.priced cost ∉ deeds) : second.cost = first.cost := by
  induction moves with
  | none throttle => rfl
  | more move others inductionHypothesis =>
      have unpricedLater cost mem := unpriced cost (List.mem_append_right _ mem)
      have unpricedNow cost mem := unpriced cost (List.mem_append_left _ mem)
      exact (inductionHypothesis unpricedLater).trans (move.cost_eq unpricedNow)

end Throttle

end LoginThrottle
