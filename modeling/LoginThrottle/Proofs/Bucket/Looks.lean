import LoginThrottle.Proofs.Bucket

/-!
# Buckets that are looked at often

A look credits whole tokens and counts the time from its reading on.  The fraction of a token
that was under way by then is dropped, unless no whole token had been earned yet.  So a bucket
that is looked at now and then may hold fewer tokens at the end than one that was left alone, by
at most one for each fraction that was dropped.

## Main Definitions

* `Bucket.Schedule`: actions on a bucket with the readings at which they are performed
* `Bucket.onlyLooks`: all of a schedule refills the bucket and takes nothing out of it
* `Bucket.Follows`: readings in their order from the last refill on
* `Bucket.droppedFractions`: how often a look drops a fraction of a token

## Main Statements

* `Bucket.refill_tokens_of_look`: what one look makes of the tokens at a later reading
* `Bucket.refill_tokens_of_looks`: what a schedule of looks makes of them
* `Bucket.tokens_of_looks`: the same beside the tokens that a single refill gives
* `Bucket.early_looks_cost`: looks of any kind may cost a token
-/

namespace LoginThrottle

namespace Bucket

/-! ### Schedules -/

/-- Actions on a bucket with the readings at which they are performed. -/
abbrev Schedule := List (Instant × Action)

/-- The bucket after all actions of a schedule. -/
def performAll (bucket : Bucket) (schedule : Schedule) : Bucket :=
  schedule.foldl (fun bucket turn => (bucket.perform turn.1 turn.2).2) bucket

theorem performAll_cons (bucket : Bucket) (now : Instant) (action : Action)
    (schedule : Schedule) :
    bucket.performAll ((now, action) :: schedule) =
      (bucket.perform now action).2.performAll schedule := rfl

/-! ### Looks -/

/-- The action refills the bucket and takes nothing out of it.  An attempt does so if it is
denied. -/
def isLook (bucket : Bucket) (now : Instant) : Action → Bool
  | .refill | .affordable _ => true
  | .take cost => !(bucket.take cost now).1
  | .withdraw _ | .reset | .idleFor => false

/-- All actions of a schedule are looks. -/
def onlyLooks : Bucket → Schedule → Bool
  | _, [] => true
  | bucket, (now, action) :: schedule =>
      bucket.isLook now action && (bucket.perform now action).2.onlyLooks schedule

/-- A refill at the reading credits a token and drops the fraction of the next one that was
under way. -/
def dropsFraction (bucket : Bucket) (now : Instant) : Bool :=
  decide (bucket.earned now ≠ 0 ∧
    bucket.rate.count * (now.since bucket.lastRefill).nanos % bucket.rate.window.nanos ≠ 0)

/-- How often a schedule drops a fraction of a token. -/
def droppedFractions : Bucket → Schedule → Nat
  | _, [] => 0
  | bucket, (now, action) :: schedule =>
      (bucket.dropsFraction now).toNat + (bucket.perform now action).2.droppedFractions schedule

variable {bucket : Bucket} {now ending : Instant} {action : Action} {schedule : Schedule}

/-- A look does nothing but refill the bucket. -/
theorem perform_of_isLook (look : bucket.isLook now action = true) :
    (bucket.perform now action).2 = bucket.refill now := by
  cases action with
  | refill => rfl
  | affordable cost => rfl
  | take cost =>
      simp only [isLook, take_eq, Bool.not_eq_true'] at look
      simp only [perform, take_eq, look, Bool.false_eq_true, if_false]
  | withdraw cost => cases look
  | reset => cases look
  | idleFor => cases look

/-- The tokens of a bucket that is refilled twice, and a token at least by the first refill. -/
theorem tokens_refill_refill (bounded : bucket.capacity ≤ largestCount)
    (counts : bucket.CountsTo ending) (something : bucket.earned now ≠ 0) (going : now ≤ ending) :
    ((bucket.refill now).refill ending).tokens =
      min (bucket.tokens + (bucket.rate.accrual (now.since bucket.lastRefill) +
        bucket.rate.accrual (ending.since now))) bucket.capacity := by
  have countsNow := counts.mono going
  have later := (counts.refill now).tokens_refill (by rwa [capacity_refill])
  have credited : bucket.rate.accrual (now.since bucket.lastRefill) ≠ 0 :=
    mt countsNow.earned_eq_zero_iff.mpr something
  rw [later, capacity_refill, rate_refill, lastRefill_refill_of_earned_ne_zero something,
    countsNow.tokens_refill bounded, if_neg credited]
  split <;> omega

/-- A cut that drops no fraction of a token earns the same in two parts. -/
theorem accrual_le_add_dropsFraction (something : bucket.earned now ≠ 0)
    (begun : bucket.lastRefill ≤ now) (going : now ≤ ending) :
    bucket.rate.accrual (ending.since bucket.lastRefill) ≤
      bucket.rate.accrual (now.since bucket.lastRefill) +
        bucket.rate.accrual (ending.since now) + (bucket.dropsFraction now).toNat := by
  have cut := Instant.since_eq_add begun going
  cases drops : bucket.dropsFraction now with
  | true => exact bucket.rate.accrual_le_add_succ cut
  | false =>
      have settled : bucket.rate.count * (now.since bucket.lastRefill).nanos %
          bucket.rate.window.nanos = 0 := by
        simpa [dropsFraction, something] using drops
      exact Nat.le_of_eq (bucket.rate.accrual_eq_add_of_mod_eq_zero cut settled)

/-- One look costs at most one token at a later reading, and none if it drops no fraction. -/
theorem refill_tokens_of_look (bounded : bucket.capacity ≤ largestCount)
    (counts : bucket.CountsTo ending) (begun : bucket.lastRefill ≤ now) (going : now ≤ ending) :
    ((bucket.refill now).refill ending).tokens ≤ (bucket.refill ending).tokens ∧
      (bucket.refill ending).tokens ≤
        ((bucket.refill now).refill ending).tokens + (bucket.dropsFraction now).toNat := by
  by_cases nothing : bucket.earned now = 0
  · rw [refill_of_earned_eq_zero nothing]
    exact ⟨Nat.le_refl _, Nat.le_add_right _ _⟩
  · have least := bucket.rate.accrual_add_le (Instant.since_eq_add begun going)
    have most := accrual_le_add_dropsFraction nothing begun going
    have credited : bucket.rate.accrual (now.since bucket.lastRefill) ≠ 0 :=
      mt (counts.mono going).earned_eq_zero_iff.mpr nothing
    have creditedAlone : bucket.rate.accrual (ending.since bucket.lastRefill) ≠ 0 := by omega
    rw [tokens_refill_refill bounded counts nothing going, counts.tokens_refill bounded,
      if_neg creditedAlone]
    omega

/-! ### Schedules of looks -/

/-- The readings of a schedule follow each other, from the last refill of the bucket on. -/
def Follows (bucket : Bucket) (readings : List Instant) : Prop :=
  (bucket.lastRefill :: readings).Pairwise (· ≤ ·)

instance (bucket : Bucket) (readings : List Instant) : Decidable (bucket.Follows readings) :=
  inferInstanceAs (Decidable (List.Pairwise _ _))

theorem Follows.refill {readings : List Instant} (follows : bucket.Follows (now :: readings)) :
    (bucket.refill now).Follows readings := by
  obtain ⟨past, going⟩ := List.pairwise_cons.mp follows
  refine List.pairwise_cons.mpr ⟨fun later mem => ?_, going.tail⟩
  by_cases nothing : bucket.earned now = 0
  · rw [refill_of_earned_eq_zero nothing]
    exact past later (List.mem_cons_of_mem now mem)
  · rw [refill_of_earned_ne_zero nothing]
    exact List.rel_of_pairwise_cons going mem

/-- At the end of a schedule of looks a bucket holds at most what a single refill would have
given it then, and it lacks at most one token for each fraction that was dropped. -/
theorem refill_tokens_of_looks (bounded : bucket.capacity ≤ largestCount)
    (counts : bucket.CountsTo ending) (looks : bucket.onlyLooks schedule = true)
    (follows : bucket.Follows (schedule.map Prod.fst ++ [ending])) :
    ((bucket.performAll schedule).refill ending).tokens ≤ (bucket.refill ending).tokens ∧
      (bucket.refill ending).tokens ≤
        ((bucket.performAll schedule).refill ending).tokens + bucket.droppedFractions schedule := by
  induction schedule generalizing bucket with
  | nil => exact ⟨Nat.le_refl _, Nat.le_refl _⟩
  | cons turn schedule inductionHypothesis =>
      obtain ⟨now, action⟩ := turn
      obtain ⟨look, looks⟩ := Bool.and_eq_true_iff.mp looks
      rw [perform_of_isLook look] at looks
      have past : bucket.lastRefill ≤ now :=
        List.rel_of_pairwise_cons follows List.mem_cons_self
      have going : now ≤ ending :=
        List.rel_of_pairwise_cons follows.tail (List.mem_append_right _ (List.mem_singleton_self _))
      have one := refill_tokens_of_look bounded counts past going
      have rest := @inductionHypothesis (bucket.refill now) (by rwa [capacity_refill])
        (counts.refill now) looks follows.refill
      rw [droppedFractions, performAll_cons, perform_of_isLook look]
      omega

/-- **Looks cost a token for each fraction that they drop, and nothing else.**  Let the product of
the count and the whole time fit into its bits.  Then a single refill gives a bucket all whole
tokens that its rate has earned since the last one, as far as they fit.  At the end of any
schedule of looks before it the bucket holds no more than that, and it lacks at most one token
for each look that credited a token while another was under way.  So it lacks none if no look
did. -/
theorem tokens_of_looks (bucket : Bucket) (schedule : Schedule) (ending : Instant)
    (bounded : bucket.capacity ≤ largestCount)
    (counts : (ending.since bucket.lastRefill).nanos * bucket.rate.count < productModulus)
    (looks : bucket.onlyLooks schedule = true)
    (follows : bucket.Follows (schedule.map Prod.fst ++ [ending])) :
    let alone := (bucket.refill ending).tokens
    let looked := ((bucket.performAll schedule).refill ending).tokens
    (bucket.tokens ≤ bucket.capacity →
      alone = min (bucket.tokens + bucket.rate.count *
        (ending.since bucket.lastRefill).nanos / bucket.rate.window.nanos) bucket.capacity) ∧
    looked ≤ alone ∧ alone ≤ looked + bucket.droppedFractions schedule := by
  intro alone looked
  refine ⟨fun held => ?_, refill_tokens_of_looks bounded counts looks follows⟩
  have credited := CountsTo.tokens_refill counts bounded
  unfold RefillRate.accrual at credited
  split at credited <;> omega

/-- Three looks at an empty bucket of one token per ten nanoseconds.  The first comes when a
token is complete, the second before the next one is, and only the third drops a fraction. -/
theorem three_looks :
    let bucket : Bucket := ⟨3, ⟨1, ⟨10⟩⟩, 0, ⟨0⟩⟩
    let schedule : Schedule := [(⟨10⟩, .affordable 1), (⟨15⟩, .take 2), (⟨29⟩, .refill)]
    bucket.onlyLooks schedule = true ∧ bucket.droppedFractions schedule = 1 ∧
      (bucket.refill ⟨30⟩).tokens = 3 ∧
        3 ≤ ((bucket.performAll schedule).refill ⟨30⟩).tokens + 1 := by
  intro bucket schedule
  have looks : bucket.onlyLooks schedule = true := by decide +kernel
  have dropped : bucket.droppedFractions schedule = 1 := by decide +kernel
  obtain ⟨credited, -, lacking⟩ :=
    tokens_of_looks bucket schedule ⟨30⟩ (by decide) (by decide) looks (by decide +kernel)
  have alone : (bucket.refill ⟨30⟩).tokens = 3 := (credited (by decide)).trans (by decide)
  refine ⟨looks, dropped, alone, ?_⟩
  rwa [alone, dropped] at lacking

/-- **A look may cost a token.**  A look of any kind after one and a half tokens' time drops the
half, and the bucket holds two tokens after three tokens' time, where a single refill gives it
three. -/
theorem early_looks_cost :
    let bucket : Bucket := ⟨3, ⟨1, ⟨10⟩⟩, 0, ⟨0⟩⟩
    (bucket.refill ⟨30⟩).tokens = 3 ∧
      ∀ look ∈ [Action.refill, .affordable 1, .take 2],
        bucket.isLook ⟨15⟩ look = true ∧
          ((bucket.perform ⟨15⟩ look).2.refill ⟨30⟩).tokens = 2 := by
  decide +kernel

end Bucket

end LoginThrottle
