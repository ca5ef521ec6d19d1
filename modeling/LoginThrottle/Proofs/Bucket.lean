import LoginThrottle.Bucket
import LoginThrottle.Proofs.RefillRate

/-!
# What happens to one bucket

A throttle looks at a bucket, takes the cost of an attempt out of it, fills it up or forgets
it.  None of this lets a bucket hold or promise more than its capacity and its rate allow.

## Main Definitions

* `Bucket.Fits`: capacity and rate are the given ones and the bucket is not overfull
* `Bucket.Effect`: what the tokens of a bucket went through
* `Bucket.CountsTo`: the product of the rate and the time since the last refill fits
* `Bucket.Touch`: all that a throttle does to the bucket of one value at a reading
* `Bucket.reserve`: a bound on the tokens that can be taken out of a bucket up to a reading

## Main Statements

* `Bucket.Touch.fits`: a bucket goes on fitting whatever happens to it
* `Bucket.Touch.reserve_le`: what is paid is missing from the reserve, and only filling a
  bucket up raises the reserve, by no more than the capacity

## Design Notes

The time since the last refill may earn a token together with time that is still to come, so
the reserve counts from the last refill.  A bucket that was not refilled for long would have
a large reserve then, although it cannot hold it.  So the reserve is bounded a second time,
by what a full bucket can give from now on and one token more for a fraction that is kept.

The time before the reading counts by its product, which may have started over, and not by what
the rate promises for it.  Otherwise a bucket whose product has just started over would keep a
reserve that it can never give.
-/

namespace LoginThrottle

namespace Bucket

/-! ### Buckets of a capacity and a rate -/

/-- The bucket is of a capacity and a rate and holds no more than its capacity. -/
structure Fits (capacity : Nat) (rate : RefillRate) (bucket : Bucket) : Prop where
  capacity_eq : bucket.capacity = capacity
  rate_eq : bucket.rate = rate
  tokens_le : bucket.tokens ≤ capacity

variable {capacity : Nat} {rate : RefillRate} {bucket : Bucket} {now : Instant}

theorem fits_fresh (capacity : Nat) (rate : RefillRate) (now : Instant) :
    (fresh capacity rate now).Fits capacity rate :=
  ⟨rfl, rfl, Nat.le_refl _⟩

theorem refill_of_earned_eq_zero (nothing : bucket.earned now = 0) :
    bucket.refill now = bucket := by
  rw [refill, if_pos nothing]

theorem refill_of_earned_ne_zero (something : bucket.earned now ≠ 0) :
    bucket.refill now =
      { bucket with
        tokens := min (bucket.tokens + bucket.earned now) bucket.capacity
        lastRefill := now } := by
  rw [refill, if_neg something]

theorem Fits.refill (fits : bucket.Fits capacity rate) (now : Instant) :
    (bucket.refill now).Fits capacity rate := by
  by_cases nothing : bucket.earned now = 0
  · rw [refill_of_earned_eq_zero nothing]
    exact fits
  · rw [refill_of_earned_ne_zero nothing]
    exact ⟨fits.capacity_eq, fits.rate_eq, fits.capacity_eq ▸ Nat.min_le_right _ _⟩

theorem Fits.withdraw (fits : bucket.Fits capacity rate) (cost : Nat) :
    (bucket.withdraw cost).Fits capacity rate :=
  ⟨fits.capacity_eq, fits.rate_eq, Nat.le_trans (Nat.sub_le _ _) fits.tokens_le⟩

theorem Fits.reset (fits : bucket.Fits capacity rate) (now : Instant) :
    (bucket.reset now).Fits capacity rate :=
  ⟨fits.capacity_eq, fits.rate_eq, Nat.le_of_eq fits.capacity_eq⟩

/-! ### When a bucket was last refilled -/

theorem lastRefill_refill (past : bucket.lastRefill ≤ now) :
    (bucket.refill now).lastRefill ≤ now := by
  by_cases nothing : bucket.earned now = 0
  · rw [refill_of_earned_eq_zero nothing]
    exact past
  · rw [refill_of_earned_ne_zero nothing]
    exact Int.le_refl _

theorem lastRefill_refill_of_earned_ne_zero (something : bucket.earned now ≠ 0) :
    (bucket.refill now).lastRefill = now := by
  rw [refill_of_earned_ne_zero something]

/-- Something is earned only once time has passed. -/
theorem lastRefill_le_of_earned_ne_zero (something : bucket.earned now ≠ 0) :
    bucket.lastRefill ≤ now := by
  refine Int.not_lt.mp fun behind => something ?_
  have noTime : now.since bucket.lastRefill = Duration.zero := by
    simp only [Instant.since, Duration.zero, Duration.mk.injEq]
    omega
  rw [earned, noTime, RefillRate.tokensFor_zero]

/-- A refill does not go back in time, not even at a reading that does. -/
theorem le_lastRefill_refill (bucket : Bucket) (now : Instant) :
    bucket.lastRefill ≤ (bucket.refill now).lastRefill := by
  by_cases nothing : bucket.earned now = 0
  · rw [refill_of_earned_eq_zero nothing]
    exact Int.le_refl _
  · rw [refill_of_earned_ne_zero nothing]
    exact lastRefill_le_of_earned_ne_zero nothing

/-! ### Refilled buckets -/

/-- After a refill nothing has been earned yet. -/
theorem earned_refill (bucket : Bucket) (now : Instant) : (bucket.refill now).earned now = 0 := by
  by_cases nothing : bucket.earned now = 0
  · rw [refill_of_earned_eq_zero nothing, nothing]
  · rw [refill_of_earned_ne_zero nothing]
    simp [earned]

/-- At one reading a second refill does nothing. -/
theorem refill_refill (bucket : Bucket) (now : Instant) :
    (bucket.refill now).refill now = bucket.refill now :=
  refill_of_earned_eq_zero (bucket.earned_refill now)

theorem refill_withdraw_refill (bucket : Bucket) (now : Instant) (cost : Nat) :
    ((bucket.refill now).withdraw cost).refill now = (bucket.refill now).withdraw cost :=
  refill_of_earned_eq_zero (bucket.earned_refill now)

/-- The product of the rate's count and the time since the last refill fits at the reading. -/
def CountsTo (bucket : Bucket) (now : Instant) : Prop :=
  bucket.rate.CountsTo (now.since bucket.lastRefill)

instance (bucket : Bucket) (now : Instant) : Decidable (bucket.CountsTo now) :=
  inferInstanceAs (Decidable (RefillRate.CountsTo _ _))

/-- What fits at a reading fits at every earlier one. -/
theorem CountsTo.mono {ending : Instant} (counts : bucket.CountsTo ending) (going : now ≤ ending) :
    bucket.CountsTo now :=
  RefillRate.CountsTo.mono counts (Instant.since_mono going bucket.lastRefill)

/-- What fits before a refill fits after it, since the time starts over. -/
theorem CountsTo.refill {ending : Instant} (counts : bucket.CountsTo ending) (now : Instant) :
    (bucket.refill now).CountsTo ending := by
  rw [CountsTo, rate_refill]
  exact RefillRate.CountsTo.mono counts
    (Instant.since_le_since (bucket.le_lastRefill_refill now) ending)

theorem CountsTo.earned_eq_zero_iff (counts : bucket.CountsTo now) :
    bucket.earned now = 0 ↔ bucket.rate.accrual (now.since bucket.lastRefill) = 0 := by
  rw [earned, RefillRate.tokensFor_eq_zero_iff, RefillRate.CountsTo.product_eq counts,
    RefillRate.accrual]

/-- The cap on what is credited at once does not show in a bucket that holds no more. -/
theorem CountsTo.tokens_refill (counts : bucket.CountsTo now)
    (bounded : bucket.capacity ≤ largestCount) :
    (bucket.refill now).tokens =
      if bucket.rate.accrual (now.since bucket.lastRefill) = 0 then bucket.tokens
      else min (bucket.tokens + bucket.rate.accrual (now.since bucket.lastRefill))
        bucket.capacity := by
  by_cases nothing : bucket.earned now = 0
  · rw [refill_of_earned_eq_zero nothing, if_pos (counts.earned_eq_zero_iff.mp nothing)]
  · rw [refill_of_earned_ne_zero nothing, if_neg (mt counts.earned_eq_zero_iff.mpr nothing), earned,
      RefillRate.CountsTo.tokensFor_eq counts]
    show min (bucket.tokens + min _ largestCount) bucket.capacity = min _ bucket.capacity
    omega

theorem take_eq (bucket : Bucket) (cost : Nat) (now : Instant) :
    bucket.take cost now =
      ((bucket.refill now).canPay cost,
        if (bucket.refill now).canPay cost then (bucket.refill now).withdraw cost
        else bucket.refill now) := by
  unfold take
  cases paid : (bucket.refill now).canPay cost <;> simp [paid]

/-! ### Everything that happens to a bucket -/

/-- What the tokens of a bucket went through. -/
inductive Effect
  /-- Nothing was paid, and the bucket was not filled up. -/
  | kept
  | paid (amount : Nat)
  | filled
  deriving DecidableEq, Repr

namespace Effect

/-- The number of tokens that were paid. -/
def amount : Effect → Nat
  | paid amount => amount
  | _ => 0

/-- How often the bucket was filled up. -/
def fills : Effect → Nat
  | filled => 1
  | _ => 0

end Effect

/-- All that a throttle does to the bucket of one value at a reading.  A value without a
bucket gets a new one when it is first looked at. -/
inductive Touch (capacity : Nat) (rate : RefillRate) (cost : Nat) (now : Instant) :
    Option Bucket → Effect → Option Bucket → Prop
  | look (old : Option Bucket) :
      Touch capacity rate cost now old .kept
        (some ((old.getD (fresh capacity rate now)).refill now))
  | pay {old : Option Bucket}
      (affordable : ((old.getD (fresh capacity rate now)).refill now).canPay cost = true) :
      Touch capacity rate cost now old (.paid cost)
        (some (((old.getD (fresh capacity rate now)).refill now).withdraw cost))
  | fill (bucket : Bucket) :
      Touch capacity rate cost now (some bucket) .filled (some (bucket.reset now))
  | forget {bucket : Bucket} (full : bucket.isFull = true) :
      Touch capacity rate cost now (some bucket) .kept none
  /-- There is no bucket to be filled up or forgotten. -/
  | miss {effect : Effect} (nothing : effect.amount = 0) :
      Touch capacity rate cost now none effect none

variable {cost : Nat} {old new : Option Bucket} {effect : Effect}

theorem fits_getD (fits : ∀ bucket, old = some bucket → bucket.Fits capacity rate)
    (now : Instant) : (old.getD (fresh capacity rate now)).Fits capacity rate := by
  cases old with
  | none => exact fits_fresh capacity rate now
  | some bucket => exact fits bucket rfl

theorem lastRefill_getD (past : ∀ bucket, old = some bucket → bucket.lastRefill ≤ now) :
    (old.getD (fresh capacity rate now)).lastRefill ≤ now := by
  cases old with
  | none => exact Int.le_refl _
  | some bucket => exact past bucket rfl

/-- A bucket goes on fitting whatever happens to it. -/
theorem Touch.fits (touch : Touch capacity rate cost now old effect new)
    (fits : ∀ bucket, old = some bucket → bucket.Fits capacity rate) :
    ∀ bucket, new = some bucket → bucket.Fits capacity rate := by
  cases touch with
  | look old =>
      rintro _ ⟨⟩
      exact (fits_getD fits now).refill now
  | pay affordable =>
      rintro _ ⟨⟩
      exact ((fits_getD fits now).refill now).withdraw cost
  | fill bucket =>
      rintro _ ⟨⟩
      exact (fits bucket rfl).reset now
  | forget full => rintro _ ⟨⟩
  | miss nothing => rintro _ ⟨⟩

/-- Nothing that happens to a bucket has it refilled in the future. -/
theorem Touch.lastRefill_le (touch : Touch capacity rate cost now old effect new)
    (past : ∀ bucket, old = some bucket → bucket.lastRefill ≤ now) :
    ∀ bucket, new = some bucket → bucket.lastRefill ≤ now := by
  cases touch with
  | look old =>
      rintro _ ⟨⟩
      exact lastRefill_refill (lastRefill_getD past)
  | pay affordable =>
      rintro _ ⟨⟩
      exact lastRefill_refill (lastRefill_getD past)
  | fill bucket =>
      rintro _ ⟨⟩
      exact Int.le_refl _
  | forget full => rintro _ ⟨⟩
  | miss nothing => rintro _ ⟨⟩

theorem countsTo_of_lastRefill_eq (here : bucket.lastRefill = now) : bucket.CountsTo now := by
  rw [CountsTo, here, Instant.since_self]
  exact RefillRate.countsTo_zero bucket.rate

/-- Nothing that happens to a bucket now makes its product larger. -/
theorem Touch.countsTo (touch : Touch capacity rate cost now old effect new)
    (counts : ∀ bucket, old = some bucket → bucket.CountsTo now) :
    ∀ bucket, new = some bucket → bucket.CountsTo now := by
  have looked : ((old.getD (fresh capacity rate now)).refill now).CountsTo now := by
    cases old with
    | none =>
        have anew : (fresh capacity rate now).CountsTo now := countsTo_of_lastRefill_eq rfl
        exact anew.refill now
    | some bucket => exact (counts bucket rfl).refill now
  cases touch with
  | look old =>
      rintro _ ⟨⟩
      exact looked
  | pay affordable =>
      rintro _ ⟨⟩
      exact looked
  | fill bucket =>
      rintro _ ⟨⟩
      exact countsTo_of_lastRefill_eq rfl
  | forget full => rintro _ ⟨⟩
  | miss nothing => rintro _ ⟨⟩

/-- No payment is larger than the capacity. -/
theorem Touch.amount_le (touch : Touch capacity rate cost now old effect new)
    (fits : ∀ bucket, old = some bucket → bucket.Fits capacity rate) :
    effect.amount ≤ capacity := by
  cases touch with
  | pay affordable =>
      simp only [canPay, decide_eq_true_eq] at affordable
      exact Nat.le_trans affordable.2 ((fits_getD fits now).refill now).tokens_le
  | miss nothing =>
      rw [nothing]
      exact Nat.zero_le _
  | _ => exact Nat.zero_le _

/-! ### The reserve of a bucket -/

/-- The most that a bucket can earn from its last refill up to a reading ahead, as it looks now. -/
def outlook (bucket : Bucket) (now ending : Instant) : Nat :=
  bucket.rate.outlook (now.since bucket.lastRefill) (ending.since now)

/-- A bound on the tokens that can be taken out of a bucket between two readings. -/
def reserve (bucket : Bucket) (now ending : Instant) : Nat :=
  min (bucket.tokens + bucket.outlook now ending)
    (bucket.capacity + 1 + bucket.rate.accrual (ending.since now))

variable {ending : Instant}

theorem outlook_of_lastRefill_eq (here : bucket.lastRefill = now) (ending : Instant) :
    bucket.outlook now ending = bucket.rate.accrual (ending.since now) := by
  rw [outlook, here, Instant.since_self, RefillRate.outlook_zero]

theorem reserve_fresh (capacity : Nat) (rate : RefillRate) (now ending : Instant) :
    (fresh capacity rate now).reserve now ending =
      capacity + rate.accrual (ending.since now) := by
  rw [reserve, outlook_of_lastRefill_eq (by rfl)]
  simp only [fresh]
  omega

/-- Time that passes takes away from the reserve. -/
theorem reserve_antitone {earlier : Instant} (begun : bucket.lastRefill ≤ earlier)
    (passed : earlier ≤ now) (ahead : now ≤ ending) :
    bucket.reserve now ending ≤ bucket.reserve earlier ending := by
  have sooner : bucket.outlook now ending ≤ bucket.outlook earlier ending :=
    bucket.rate.outlook_le_outlook (Instant.since_eq_add begun passed)
      (Instant.since_eq_add passed ahead)
  have less := bucket.rate.accrual_mono (Instant.since_le_since passed ending)
  simp only [reserve]
  omega

/-- What is paid after a refill is missing from the reserve. -/
theorem paid_add_reserve_le (fits : bucket.Fits capacity rate) (ending : Instant) {paid : Nat}
    (held : paid ≤ (bucket.refill now).tokens) :
    paid + ((bucket.refill now).withdraw paid).reserve now ending ≤ bucket.reserve now ending := by
  obtain ⟨rfl, rfl, tokens_le⟩ := fits
  by_cases nothing : bucket.earned now = 0
  · -- A kept fraction is worth at most one token together with the time to come.
    have kept : bucket.outlook now ending ≤ bucket.rate.accrual (ending.since now) + 1 :=
      bucket.rate.outlook_le_of_tokensFor_eq_zero nothing _
    have same : (bucket.withdraw paid).outlook now ending = bucket.outlook now ending := rfl
    rw [refill_of_earned_eq_zero nothing] at held ⊢
    rw [reserve, reserve, same]
    simp only [withdraw]
    omega
  · -- A refill counts from this reading on, and the time before it is used up.
    have credited : bucket.earned now + bucket.rate.accrual (ending.since now) ≤
        bucket.outlook now ending :=
      bucket.rate.tokensFor_add_accrual_le_outlook _ _
    rw [refill_of_earned_ne_zero nothing] at held ⊢
    rw [reserve, reserve, outlook_of_lastRefill_eq (by rfl)]
    simp only [withdraw] at held ⊢
    omega

/-- Filling a bucket up raises the reserve by no more than the capacity. -/
theorem reserve_reset_le (fits : bucket.Fits capacity rate) (now ending : Instant) :
    (bucket.reset now).reserve now ending ≤ bucket.reserve now ending + capacity := by
  obtain ⟨rfl, rfl, -⟩ := fits
  have least : bucket.rate.accrual (ending.since now) ≤ bucket.outlook now ending :=
    bucket.rate.accrual_le_outlook _ _
  rw [reserve, reserve, outlook_of_lastRefill_eq (by rfl)]
  simp only [reset]
  omega

/-- The reserve of a value, which without a bucket is that of a new one. -/
def reserveOf (capacity : Nat) (rate : RefillRate) (now ending : Instant)
    (held : Option Bucket) : Nat :=
  (held.getD (fresh capacity rate now)).reserve now ending

theorem reserveOf_le (fits : ∀ bucket, old = some bucket → bucket.Fits capacity rate)
    (now ending : Instant) :
    reserveOf capacity rate now ending old ≤
      capacity + 1 + rate.accrual (ending.since now) := by
  obtain ⟨capacity_eq, rate_eq, -⟩ := fits_getD fits now
  rw [reserveOf, reserve, capacity_eq, rate_eq]
  exact Nat.min_le_right _ _

theorem reserveOf_antitone (capacity : Nat) (rate : RefillRate) {earlier : Instant}
    (begun : ∀ bucket, old = some bucket → bucket.lastRefill ≤ earlier) (passed : earlier ≤ now)
    (ahead : now ≤ ending) :
    reserveOf capacity rate now ending old ≤ reserveOf capacity rate earlier ending old := by
  cases old with
  | none =>
      simp only [reserveOf, Option.getD_none, reserve_fresh]
      exact Nat.add_le_add_left (rate.accrual_mono (Instant.since_le_since passed ending)) _
  | some bucket => exact reserve_antitone (begun bucket rfl) passed ahead

/-- What is paid is missing from the reserve, and only filling a bucket up raises it. -/
theorem Touch.reserve_le (touch : Touch capacity rate cost now old effect new)
    (fits : ∀ bucket, old = some bucket → bucket.Fits capacity rate) (ending : Instant) :
    effect.amount + reserveOf capacity rate now ending new ≤
      reserveOf capacity rate now ending old + capacity * effect.fills := by
  cases touch with
  | look old => exact paid_add_reserve_le (fits_getD fits now) ending (Nat.zero_le _)
  | pay affordable =>
      have held : cost ≤ ((old.getD (fresh capacity rate now)).refill now).tokens := by
        simp only [canPay, decide_eq_true_eq] at affordable
        exact affordable.2
      exact paid_add_reserve_le (fits_getD fits now) ending held
  | fill bucket =>
      simp only [Effect.amount, Effect.fills, Nat.zero_add, Nat.mul_one]
      exact reserve_reset_le (fits bucket rfl) now ending
  | @forget bucket full =>
      -- A full bucket has at least the reserve of the new one that may take its place.
      obtain ⟨rfl, rfl, -⟩ := fits bucket rfl
      have least : bucket.rate.accrual (ending.since now) ≤ bucket.outlook now ending :=
        bucket.rate.accrual_le_outlook _ _
      simp only [isFull, beq_iff_eq] at full
      simp only [Effect.amount, Effect.fills, reserveOf, Option.getD_none, Option.getD_some]
      rw [reserve_fresh, reserve]
      omega
  | miss nothing =>
      rw [nothing, Nat.zero_add]
      exact Nat.le_add_right _ _

end Bucket

end LoginThrottle
