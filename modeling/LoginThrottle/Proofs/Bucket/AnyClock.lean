import LoginThrottle.Proofs.Bucket.Looks

/-!
# Buckets under any clock

The clock that a bucket is used with may jump, forwards or backwards.  A reading before the last
refill counts as no time, so the time of the last refill never goes back, and no stretch of time
is credited twice.  What is taken out of a bucket between two resets was in it before or has
been earned up to the latest reading.

## Main Definitions

* `Bucket.paid`, `Bucket.withdrawn`: the tokens that an action and a schedule take out
* `Bucket.covers`: whoever takes tokens without asking finds them there
* `Bucket.latest`: the latest of a reading and the readings of a schedule
* `Bucket.promised`: the tokens of a bucket with all that it earns up to a reading

## Main Statements

* `Bucket.Fits.performAll`: no schedule overfills a bucket
* `Bucket.exists_perform_eq`: all that an action other than a reset can do
* `Bucket.withdrawn_add_promised_le`: what is taken out is missing from what is promised
* `Bucket.never_overdrawn`: what every schedule keeps to

## Design Notes

`Bucket.reserve` bounds a bucket from the reading at which it is looked at, and relies on a clock
that does not go back.  Here the bound counts from the last refill and needs no such clock.
-/

namespace LoginThrottle

namespace Instant

/-- The later one of two readings. -/
def later (first second : Instant) : Instant :=
  if first ≤ second then second else first

theorem le_later_left (first second : Instant) : first ≤ later first second := by
  unfold later
  split
  · assumption
  · exact Int.le_refl _

theorem le_later_right (first second : Instant) : second ≤ later first second := by
  unfold later
  split
  · exact Int.le_refl _
  · next behind => exact Int.le_of_lt (Int.not_le.mp behind)

end Instant

namespace Bucket

/-! ### What is taken out -/

/-- The tokens that an action takes out of the bucket. -/
def paid (bucket : Bucket) (now : Instant) : Action → Nat
  | .withdraw cost => cost
  | .take cost => if (bucket.take cost now).1 then cost else 0
  | .refill | .affordable _ | .reset | .idleFor => 0

/-- The tokens that a schedule takes out of the bucket. -/
def withdrawn : Bucket → Schedule → Nat
  | _, [] => 0
  | bucket, (now, action) :: schedule =>
      bucket.paid now action + (bucket.perform now action).2.withdrawn schedule

/-- The bucket holds the tokens that an action takes without asking. -/
def affords (bucket : Bucket) : Action → Bool
  | .withdraw cost => decide (cost ≤ bucket.tokens)
  | .refill | .take _ | .affordable _ | .reset | .idleFor => true

/-- Whenever tokens are taken without asking, they are there. -/
def covers : Bucket → Schedule → Bool
  | _, [] => true
  | bucket, (now, action) :: schedule =>
      bucket.affords action && (bucket.perform now action).2.covers schedule

/-- The latest of a reading and the readings of a schedule. -/
def latest (start : Instant) (schedule : Schedule) : Instant :=
  (schedule.map Prod.fst).foldl Instant.later start

/-- The tokens of a bucket with all that it earns up to a reading, whether it holds them or
not. -/
def promised (bucket : Bucket) (ending : Instant) : Nat :=
  bucket.tokens + bucket.rate.accrual (ending.since bucket.lastRefill)

variable {capacity : Nat} {rate : RefillRate} {bucket : Bucket} {now ending : Instant}
  {action : Action} {schedule : Schedule}

/-! ### Readings -/

theorem le_latest_start (start : Instant) (schedule : Schedule) :
    start ≤ latest start schedule := by
  induction schedule generalizing start with
  | nil => exact Int.le_refl _
  | cons turn schedule inductionHypothesis =>
      exact Int.le_trans (start.le_later_left turn.1) (inductionHypothesis _)

theorem le_latest {turn : Instant × Action} (member : turn ∈ schedule) (start : Instant) :
    turn.1 ≤ latest start schedule := by
  induction schedule generalizing start with
  | nil => cases member
  | cons first schedule inductionHypothesis =>
      rcases List.mem_cons.mp member with rfl | rest
      · exact Int.le_trans (start.le_later_right turn.1) (le_latest_start _ schedule)
      · exact inductionHypothesis rest _

/-! ### Single actions -/

theorem Fits.perform (fits : bucket.Fits capacity rate) (now : Instant) (action : Action) :
    (bucket.perform now action).2.Fits capacity rate := by
  cases action with
  | refill => exact fits.refill now
  | withdraw cost => exact fits.withdraw cost
  | reset => exact fits.reset now
  | take cost =>
      simp only [Bucket.perform, take_eq]
      split
      · exact (fits.refill now).withdraw cost
      · exact fits.refill now
  | affordable cost => exact fits.refill now
  | idleFor => exact fits

/-- No schedule overfills a bucket, whatever the clock does. -/
theorem Fits.performAll (fits : bucket.Fits capacity rate) (schedule : Schedule) :
    (bucket.performAll schedule).Fits capacity rate := by
  induction schedule generalizing bucket with
  | nil => exact fits
  | cons turn schedule inductionHypothesis =>
      exact inductionHypothesis (fits.perform turn.1 turn.2)

/-- An action other than a reset refills the bucket or leaves it, and then takes tokens out.  They
are there unless they are taken without asking. -/
theorem exists_perform_eq (goesOn : action ≠ .reset) (bucket : Bucket) (now : Instant) :
    ∃ between : Bucket, (between = bucket ∨ between = bucket.refill now) ∧
      (bucket.perform now action).2 = between.withdraw (bucket.paid now action) ∧
      (bucket.affords action = true → bucket.paid now action ≤ between.tokens) := by
  cases action with
  | refill => exact ⟨bucket.refill now, .inr rfl, rfl, fun _ => Nat.zero_le _⟩
  | affordable cost => exact ⟨bucket.refill now, .inr rfl, rfl, fun _ => Nat.zero_le _⟩
  | idleFor => exact ⟨bucket, .inl rfl, rfl, fun _ => Nat.zero_le _⟩
  | withdraw cost => exact ⟨bucket, .inl rfl, rfl, of_decide_eq_true⟩
  | take cost =>
      refine ⟨bucket.refill now, .inr rfl, ?_⟩
      simp only [paid, perform, take_eq]
      cases allowed : (bucket.refill now).canPay cost with
      | true => exact ⟨rfl, fun _ => (of_decide_eq_true allowed).2⟩
      | false => exact ⟨rfl, fun _ => Nat.zero_le _⟩
  | reset => exact absurd rfl goesOn

/-- Only a reset can set the time of the last refill back. -/
theorem le_lastRefill_perform (goesOn : action ≠ .reset) (bucket : Bucket) (now : Instant) :
    bucket.lastRefill ≤ (bucket.perform now action).2.lastRefill := by
  obtain ⟨between, which, left, -⟩ := exists_perform_eq goesOn bucket now
  rw [left]
  rcases which with rfl | rfl
  · exact Int.le_refl _
  · exact bucket.le_lastRefill_refill now

/-- A refill promises no more than before: it credits the time up to its reading and counts from
there on. -/
theorem promised_refill_le (begun : bucket.lastRefill ≤ ending) (going : now ≤ ending) :
    (bucket.refill now).lastRefill ≤ ending ∧
      (bucket.refill now).promised ending ≤ bucket.promised ending := by
  by_cases nothing : bucket.earned now = 0
  · rw [refill_of_earned_eq_zero nothing]
    exact ⟨begun, Nat.le_refl _⟩
  · -- The time up to the refill and the time behind it earn at most what both earn together.
    have cut := Instant.since_eq_add (lastRefill_le_of_earned_ne_zero nothing) going
    have least := bucket.rate.accrual_add_le cut
    have credited : bucket.earned now ≤ bucket.rate.accrual (now.since bucket.lastRefill) :=
      RefillRate.tokensFor_le_accrual _ _
    rw [refill_of_earned_ne_zero nothing]
    refine ⟨going, ?_⟩
    simp only [promised]
    omega

/-- What an action takes out is missing from what the bucket promises. -/
theorem paid_add_promised_le (goesOn : action ≠ .reset) (covered : bucket.affords action = true)
    (begun : bucket.lastRefill ≤ ending) (going : now ≤ ending) :
    (bucket.perform now action).2.lastRefill ≤ ending ∧
      bucket.paid now action + (bucket.perform now action).2.promised ending ≤
        bucket.promised ending := by
  obtain ⟨between, which, left, enough⟩ := exists_perform_eq goesOn bucket now
  have held := enough covered
  have kept : between.lastRefill ≤ ending ∧ between.promised ending ≤ bucket.promised ending := by
    rcases which with rfl | rfl
    · exact ⟨begun, Nat.le_refl _⟩
    · exact promised_refill_le begun going
  rw [left]
  refine ⟨kept.1, Nat.le_trans (Nat.le_of_eq ?_) kept.2⟩
  simp only [promised, withdraw]
  omega

/-! ### Schedules -/

/-- What a schedule without resets takes out is missing from what the bucket promises. -/
theorem withdrawn_add_promised_le (goesOn : ∀ turn ∈ schedule, turn.2 ≠ .reset)
    (covered : bucket.covers schedule = true) (begun : bucket.lastRefill ≤ ending)
    (going : ∀ turn ∈ schedule, turn.1 ≤ ending) :
    bucket.withdrawn schedule + (bucket.performAll schedule).promised ending ≤
      bucket.promised ending := by
  -- The ending stays the same throughout, so the promises of all buckets on the way compare.
  induction schedule generalizing bucket with
  | nil => exact Nat.le_of_eq (Nat.zero_add _)
  | cons turn schedule inductionHypothesis =>
      obtain ⟨now, action⟩ := turn
      obtain ⟨afforded, coveredLater⟩ := Bool.and_eq_true_iff.mp covered
      have goesOnNow : action ≠ .reset := goesOn _ List.mem_cons_self
      have goingNow : now ≤ ending := going _ List.mem_cons_self
      obtain ⟨begunLater, one⟩ := paid_add_promised_le goesOnNow afforded begun goingNow
      have rest := inductionHypothesis
        (fun turn later => goesOn turn (List.mem_cons_of_mem _ later))
        coveredLater begunLater (fun turn later => going turn (List.mem_cons_of_mem _ later))
      rw [withdrawn, performAll_cons]
      omega

/-- **A bucket never gives or holds more than it has.**  Let a bucket be made full and be used by
any schedule, at readings in any order.  Then it holds no more than its capacity.  An attempt
passes exactly if the refilled bucket holds something and at least its cost, and it takes that
cost or nothing.  Only a reset sets the time of the last refill back.  And what a stretch without
resets takes out was there at its start or has been earned from the last refill before it to the
latest reading in it. -/
theorem never_overdrawn (capacity : Nat) (rate : RefillRate) (made : Instant)
    (before stretch : Schedule) :
    let bucket := (fresh capacity rate made).performAll before
    bucket.tokens ≤ capacity ∧
    (∀ now cost,
      let refilled := bucket.refill now
      let taken := bucket.take cost now
      (taken.1 = true ↔ 0 < refilled.tokens ∧ cost ≤ refilled.tokens) ∧
        taken.2.tokens + (if taken.1 then cost else 0) = refilled.tokens ∧
        taken.2 = { refilled with tokens := taken.2.tokens }) ∧
    (∀ now action, action ≠ .reset →
      bucket.lastRefill ≤ (bucket.perform now action).2.lastRefill) ∧
    ((∀ turn ∈ stretch, turn.2 ≠ .reset) → bucket.covers stretch = true →
      bucket.withdrawn stretch ≤ bucket.tokens +
        rate.count * ((latest bucket.lastRefill stretch).since bucket.lastRefill).nanos /
          rate.window.nanos) := by
  intro bucket
  have fits : bucket.Fits capacity rate := (fits_fresh capacity rate made).performAll before
  refine ⟨fits.tokens_le, fun now cost => ?_, fun now action goesOn =>
    le_lastRefill_perform goesOn bucket now, fun goesOn covered => ?_⟩
  · simp only [take_eq]
    cases allowed : (bucket.refill now).canPay cost with
    | true =>
        have held : 0 < (bucket.refill now).tokens ∧ cost ≤ (bucket.refill now).tokens :=
          of_decide_eq_true allowed
        exact ⟨iff_of_true rfl held, Nat.sub_add_cancel held.2, rfl⟩
    | false =>
        have lacking : ¬ (0 < (bucket.refill now).tokens ∧ cost ≤ (bucket.refill now).tokens) :=
          of_decide_eq_false allowed
        exact ⟨iff_of_false Bool.false_ne_true lacking, rfl, rfl⟩
  · have bound := withdrawn_add_promised_le goesOn covered (le_latest_start _ stretch)
      (fun turn member => le_latest member _)
    rw [← fits.rate_eq]
    exact Nat.le_trans (Nat.le_add_right _ _) bound

/-- A bucket is emptied, and then its clock jumps back and forth.  The two tokens that are taken
out are all that two and a half tokens' time has earned. -/
theorem jumping_clock_withdrawn :
    let bucket := (fresh 3 ⟨1, ⟨10⟩⟩ ⟨0⟩).performAll [(⟨0⟩, .withdraw 3)]
    let stretch : Schedule :=
      [(⟨15⟩, .refill), (⟨5⟩, .withdraw 1), (⟨25⟩, .take 1), (⟨-9⟩, .take 1)]
    (∀ turn ∈ stretch, turn.2 ≠ .reset) ∧ bucket.covers stretch = true ∧
      bucket.withdrawn stretch = 2 ∧ bucket.withdrawn stretch ≤ 0 + 1 * 25 / 10 := by
  intro bucket stretch
  have goesOn : ∀ turn ∈ stretch, turn.2 ≠ .reset := by decide
  have covered : bucket.covers stretch = true := by decide +kernel
  obtain ⟨-, -, -, bound⟩ := never_overdrawn 3 ⟨1, ⟨10⟩⟩ ⟨0⟩ [(⟨0⟩, .withdraw 3)] stretch
  exact ⟨goesOn, covered, by decide +kernel, bound goesOn covered⟩

end Bucket

end LoginThrottle
