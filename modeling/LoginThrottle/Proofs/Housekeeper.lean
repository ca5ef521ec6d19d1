import LoginThrottle.Housekeeper
import LoginThrottle.Proofs.RefillRate

/-!
# Housekeepers that have caught up

A housekeeper makes all sweeps that are due before anything else happens, so between two
events none is due.  By then it has made one sweep for each interval since its start, as long as
the clock counts to the end of the next one.

## Main Definitions

* `Watch.CaughtUp`: no sweep is due at a reading
* `Housekeeper.KeepsTime`: the interval that is under way is not cut short
* `Housekeeper.OnSchedule`: what a housekeeper has done since its start, and does next

## Main Statements

* `Watch.caughtUp_runDue`: making the sweeps that are due leaves none
* `Watch.CaughtUp.runDue_eq`: when none is due nothing happens
* `Housekeeper.OnSchedule.runDue`: making the sweeps that are due keeps the schedule
* `Housekeeper.OnSchedule.count_eq`: how many sweeps a schedule has

## Design Notes

A housekeeper is in step with its start until the clock does not count to its next deadline.  The
far future takes the place of that deadline, and it may come before the interval is over.  Until
it comes the sweeps are still one for each interval.
-/

namespace LoginThrottle

namespace Watch

/-- No sweep is due, and the interval of the housekeeper is not empty. -/
def CaughtUp (now : Instant) : Watch → Prop
  | running keeper => 0 < keeper.interval.nanos ∧ now.lastTick.offset < keeper.deadline.offset
  | _ => True

end Watch

/-! ### Ticks -/

namespace Instant

theorem lastTick_le (now : Instant) : now.lastTick ≤ now := by
  have tick_pos : (0 : Int) < tickNanos := by decide
  rw [le_def, lastTick]
  exact Int.le_trans (Int.min_le_left _ _) (Int.ediv_mul_le _ (Int.ne_of_gt tick_pos))

theorem lastTick_le_last (now : Instant) : now.lastTick ≤ last :=
  Int.min_le_right _ _

/-- The timer ticks at a reading. -/
def OnTick (reading : Instant) : Prop :=
  reading.offset % tickNanos = 0

instance (reading : Instant) : Decidable reading.OnTick :=
  inferInstanceAs (Decidable (_ = _))

theorem lastTick_mono {earlier now : Instant} (passed : earlier ≤ now) :
    earlier.lastTick ≤ now.lastTick := by
  have tick_pos : (0 : Int) < tickNanos := by decide
  have ticks : earlier.offset / tickNanos * tickNanos ≤ now.offset / tickNanos * tickNanos :=
    Int.mul_le_mul_of_nonneg_right (Int.ediv_le_ediv tick_pos passed) (Int.le_of_lt tick_pos)
  simp only [le_def, lastTick]
  omega

/-- From one tick to the last one, the ticks in between have passed. -/
theorem OnTick.lastTick_since {started : Instant} (onTick : started.OnTick) {now : Instant}
    (shown : now ≤ last) :
    (now.lastTick.since started).nanos = (now.since started).nanos / tickNanos * tickNanos := by
  have tick : tickNanos = 1000000 := rfl
  rw [OnTick, tick] at onTick
  rw [le_def] at shown
  simp only [since, lastTick, tick]
  omega

end Instant

/-- A time is a whole number of ticks. -/
def Duration.InTicks (duration : Duration) : Prop :=
  duration.nanos % tickNanos = 0

instance (duration : Duration) : Decidable duration.InTicks :=
  inferInstanceAs (Decidable (_ = _))

namespace Housekeeper

theorem dueCount_of_lt {keeper : Housekeeper} {now : Instant}
    (later : now.lastTick.offset < keeper.deadline.offset) : keeper.dueCount now = 0 := by
  have notYet : ¬ keeper.deadline ≤ now.lastTick := by
    rw [Instant.le_def]
    omega
  simp [dueCount, notYet]

@[simp] theorem interval_sweepOnce (keeper : Housekeeper) (throttle : Throttle) (now : Instant) :
    (keeper.sweepOnce throttle now).2.1.interval = keeper.interval := rfl

@[simp] theorem deadline_sweepOnce (keeper : Housekeeper) (throttle : Throttle) (now : Instant) :
    (keeper.sweepOnce throttle now).2.1.deadline =
      deadlineAfter keeper.interval keeper.deadline now := rfl

@[simp] theorem interval_sweepTimes (now : Instant) (count : Nat) (keeper : Housekeeper)
    (throttle : Throttle) :
    (sweepTimes now count keeper throttle).2.1.interval = keeper.interval := by
  induction count generalizing keeper throttle with
  | zero => rfl
  | succ more inductionHypothesis =>
      rw [sweepTimes]
      exact inductionHypothesis _ _

@[simp] theorem ttl_sweepTimes (now : Instant) (count : Nat) (keeper : Housekeeper)
    (throttle : Throttle) :
    (sweepTimes now count keeper throttle).2.1.ttl = keeper.ttl := by
  induction count generalizing keeper throttle with
  | zero => rfl
  | succ more inductionHypothesis =>
      rw [sweepTimes]
      exact inductionHypothesis _ _

@[simp] theorem length_sweepTimes (now : Instant) (count : Nat) (keeper : Housekeeper)
    (throttle : Throttle) : (sweepTimes now count keeper throttle).1.length = count := by
  induction count generalizing keeper throttle with
  | zero => rfl
  | succ more inductionHypothesis =>
      rw [sweepTimes]
      exact congrArg (· + 1) (inductionHypothesis _ _)

/-! ### Deadlines -/

theorem deadlineAfter_of_le {interval : Duration} {due : Instant}
    (reached : due.plus interval ≤ .last) (now : Instant) :
    deadlineAfter interval due now = due.plus interval := by
  rw [deadlineAfter, Instant.plus?, if_pos reached]
  rfl

theorem deadlineAfter_of_not_le {interval : Duration} {due : Instant}
    (missed : ¬ due.plus interval ≤ .last) (now : Instant) :
    deadlineAfter interval due now = now.plus farFuture := by
  rw [deadlineAfter, Instant.plus?, if_neg missed]
  rfl

/-- A deadline is planned behind the reading and behind the deadline before it. -/
theorem lt_deadlineAfter {interval : Duration} {due now : Instant}
    (passed : now.lastTick.offset < (due.plus interval).offset) :
    now.lastTick.offset < (deadlineAfter interval due now).offset := by
  by_cases reached : due.plus interval ≤ .last
  · rw [deadlineAfter_of_le reached]
    exact passed
  · have far : 0 < farFuture.nanos := by decide
    have ticked := Instant.le_def.1 now.lastTick_le
    rw [deadlineAfter_of_not_le reached]
    simp only [Instant.plus]
    omega

/-- The deadline so many intervals behind the next one. -/
def deadlineAt (keeper : Housekeeper) (count : Nat) : Instant :=
  keeper.deadline.plus ⟨count * keeper.interval.nanos⟩

theorem deadlineAt_succ (keeper : Housekeeper) (count : Nat) :
    (keeper.deadlineAt count).plus keeper.interval = keeper.deadlineAt (count + 1) := by
  simp only [deadlineAt, Instant.plus, Nat.succ_mul, Instant.mk.injEq]
  omega

/-- Sweeps move the deadline by an interval each, as long as the clock counts that far. -/
theorem deadline_sweepTimes_succ {now : Instant} {keeper : Housekeeper} {count : Nat}
    (held : keeper.deadlineAt count ≤ .last) (throttle : Throttle) :
    (sweepTimes now (count + 1) keeper throttle).2.1.deadline =
      deadlineAfter keeper.interval (keeper.deadlineAt count) now := by
  induction count generalizing keeper throttle with
  | zero =>
      have here : keeper.deadlineAt 0 = keeper.deadline := by simp [deadlineAt, Instant.plus]
      rw [here]
      rfl
  | succ count inductionHypothesis =>
      have next : (keeper.deadline.plus keeper.interval).plus ⟨count * keeper.interval.nanos⟩ =
          keeper.deadlineAt (count + 1) := by
        simp only [deadlineAt, Instant.plus, Nat.succ_mul, Instant.mk.injEq]
        omega
      have reached : keeper.deadline.plus keeper.interval ≤ .last := by
        rw [← next] at held
        simp only [Instant.le_def, Instant.plus] at held ⊢
        omega
      have moved : (keeper.sweepOnce throttle now).2.1.deadlineAt count =
          keeper.deadlineAt (count + 1) := by
        rw [← next, deadlineAt, deadline_sweepOnce, deadlineAfter_of_le reached, interval_sweepOnce]
      rw [sweepTimes]
      exact (inductionHypothesis (moved ▸ held) _).trans (by rw [moved, interval_sweepOnce])

/-- The last deadline that is due, if the next one is. -/
theorem exists_dueCount_eq {keeper : Housekeeper} (interval_pos : 0 < keeper.interval.nanos)
    {now : Instant} (due : keeper.deadline ≤ now.lastTick) :
    ∃ more, keeper.dueCount now = more + 1 ∧ keeper.deadlineAt more ≤ now.lastTick ∧
      now.lastTick.offset < (keeper.deadlineAt (more + 1)).offset := by
  refine ⟨_, if_pos due, ?_⟩
  have elapsed : ((now.lastTick.since keeper.deadline).nanos : Int) =
      now.lastTick.offset - keeper.deadline.offset := by
    rw [Instant.le_def] at due
    simp only [Instant.since]
    omega
  have within :=
    Nat.div_mul_le_self (now.lastTick.since keeper.deadline).nanos keeper.interval.nanos
  have beyond := Nat.lt_mul_div_succ (now.lastTick.since keeper.deadline).nanos interval_pos
  rw [Nat.mul_comm] at beyond
  simp only [Instant.le_def, deadlineAt, Instant.plus]
  omega

/-- Making the sweeps that are due plans the next one behind the last deadline that was due. -/
theorem deadline_runDue {keeper : Housekeeper} {now : Instant} {more : Nat}
    (counted : keeper.dueCount now = more + 1) (due : keeper.deadlineAt more ≤ now.lastTick)
    (throttle : Throttle) :
    (keeper.runDue throttle now).2.1.deadline =
      deadlineAfter keeper.interval (keeper.deadlineAt more) now := by
  unfold runDue
  rw [counted]
  exact deadline_sweepTimes_succ (Int.le_trans due now.lastTick_le_last) throttle

theorem runDue_of_dueCount_eq_zero {keeper : Housekeeper} {now : Instant}
    (none : keeper.dueCount now = 0) (throttle : Throttle) :
    keeper.runDue throttle now = ([], keeper, throttle) := by
  unfold runDue
  rw [none]
  rfl

/-- The sweeps that are due bring the deadline behind the last tick. -/
theorem lt_deadline_runDue {keeper : Housekeeper} (interval_pos : 0 < keeper.interval.nanos)
    (throttle : Throttle) (now : Instant) :
    now.lastTick.offset < (keeper.runDue throttle now).2.1.deadline.offset := by
  by_cases due : keeper.deadline ≤ now.lastTick
  · obtain ⟨more, counted, reached, ahead⟩ := exists_dueCount_eq interval_pos due
    rw [deadline_runDue counted reached]
    rw [← deadlineAt_succ] at ahead
    exact lt_deadlineAfter ahead
  · rw [runDue_of_dueCount_eq_zero (if_neg due)]
    exact Int.not_le.1 due

/-! ### Intervals since the start -/

/-- The end of so many intervals since the start. -/
def endOf (interval : Duration) (started : Instant) (count : Nat) : Instant :=
  started.plus ⟨count * interval.nanos⟩

/-- The number of intervals that are over at a reading. -/
def intervalsOver (interval : Duration) (started now : Instant) : Nat :=
  (now.since started).nanos / interval.nanos

variable {interval : Duration} {started now later : Instant} {count : Nat}

theorem le_intervalsOver (interval_pos : 0 < interval.nanos)
    (passed : endOf interval started count ≤ now) : count ≤ intervalsOver interval started now := by
  rw [intervalsOver, Nat.le_div_iff_mul_le interval_pos]
  simp only [Instant.le_def, endOf, Instant.plus] at passed
  simp only [Instant.since]
  omega

theorem intervalsOver_lt_succ (interval_pos : 0 < interval.nanos)
    (ahead : now.offset < (endOf interval started (count + 1)).offset) :
    intervalsOver interval started now < count + 1 := by
  have positive : 0 < (count + 1) * interval.nanos := Nat.mul_pos count.succ_pos interval_pos
  rw [intervalsOver, Nat.div_lt_iff_lt_mul interval_pos]
  simp only [endOf, Instant.plus] at ahead
  simp only [Instant.since]
  omega

/-- An interval that is counted is over. -/
theorem endOf_succ_le (reached : count + 1 ≤ intervalsOver interval started now) :
    endOf interval started (count + 1) ≤ now := by
  have counted : 0 < intervalsOver interval started now := Nat.lt_of_lt_of_le count.succ_pos reached
  have interval_pos : 0 < interval.nanos :=
    Nat.pos_of_ne_zero fun empty => by simp [intervalsOver, empty] at counted
  have positive : 0 < (count + 1) * interval.nanos := Nat.mul_pos count.succ_pos interval_pos
  rw [intervalsOver, Nat.le_div_iff_mul_le interval_pos] at reached
  simp only [Instant.since] at reached
  simp only [Instant.le_def, endOf, Instant.plus]
  omega

theorem intervalsOver_mono (passed : now ≤ later) (interval : Duration) (started : Instant) :
    intervalsOver interval started now ≤ intervalsOver interval started later :=
  Nat.div_le_div_right (Instant.since_mono passed started)

/-- A housekeeper that starts at a tick does not miss the end of an interval in whole ticks. -/
theorem intervalsOver_lastTick (whole : interval.InTicks) (onTick : started.OnTick)
    (shown : now ≤ .last) :
    intervalsOver interval started now.lastTick = intervalsOver interval started now := by
  have tick_pos : 0 < tickNanos := by decide
  obtain ⟨ticks, worth⟩ := Nat.dvd_of_mod_eq_zero whole
  rw [intervalsOver, intervalsOver, onTick.lastTick_since shown, worth, Nat.mul_comm tickNanos,
    Nat.mul_div_mul_right _ _ tick_pos, Nat.div_div_eq_div_mul, Nat.mul_comm ticks]

/-! ### The schedule -/

/-- The interval that is under way at a reading is not cut short by then: the clock counts to its
end, or it has not been under way until the far future. -/
def KeepsTime (interval : Duration) (started now : Instant) : Prop :=
  let ended := intervalsOver interval started now
  endOf interval started (ended + 1) ≤ .last ∨
    now.offset < ((endOf interval started ended).plus farFuture).offset

instance (interval : Duration) (started now : Instant) :
    Decidable (KeepsTime interval started now) :=
  inferInstanceAs (Decidable (_ ∨ _))

/-- What is not cut short at a reading was not at the last tick before it. -/
theorem KeepsTime.lastTick (keeps : KeepsTime interval started now) (whole : interval.InTicks)
    (onTick : started.OnTick) (shown : now ≤ .last) :
    KeepsTime interval started now.lastTick := by
  rw [KeepsTime, intervalsOver_lastTick whole onTick shown]
  exact keeps.imp_right (Int.lt_of_le_of_lt now.lastTick_le)

/-- One sweep was made for each interval that is over, and the next one is planned at the end of
the interval that is under way. -/
structure InStep (keeper : Housekeeper) (started now : Instant) (count : Nat) : Prop where
  count_eq : count = intervalsOver keeper.interval started now.lastTick
  deadline_eq : keeper.deadline = endOf keeper.interval started (count + 1)
  reached : keeper.deadline ≤ .last

/-- The clock does not count to the end of the interval behind the first `ended` ones, which are
over.  Either that many sweeps were made, and the next one is planned in the far future, or the far
future has come. -/
def CutShort (keeper : Housekeeper) (started now : Instant) (count : Nat) : Prop :=
  ∃ ended ≤ intervalsOver keeper.interval started now.lastTick,
    ¬ endOf keeper.interval started (ended + 1) ≤ .last ∧
      (count = ended ∧ (endOf keeper.interval started ended).plus farFuture ≤ keeper.deadline ∨
        (endOf keeper.interval started ended).plus farFuture ≤ now.lastTick)

/-- So many sweeps were made between the start of a housekeeper and a reading, in step with the
start unless an interval is cut short.  The next one lies ahead. -/
structure OnSchedule (keeper : Housekeeper) (started now : Instant) (count : Nat) : Prop where
  interval_pos : 0 < keeper.interval.nanos
  begun : started ≤ now
  ahead : now.lastTick.offset < keeper.deadline.offset
  progress : keeper.InStep started now count ∨ keeper.CutShort started now count

/-- A housekeeper starts on schedule. -/
theorem onSchedule_start (ttl : Duration) (failures : Nat) (now : Instant)
    (interval_pos : 0 < interval.nanos) :
    (start ttl interval failures now).OnSchedule now now 0 := by
  have ticked := Instant.le_def.1 now.lastTick_le
  have endOf_one : endOf interval now 1 = now.plus interval := by simp [endOf]
  refine ⟨interval_pos, Int.le_refl _, lt_deadlineAfter ?_, ?_⟩
  · simp only [Instant.plus]
    omega
  · by_cases reached : now.plus interval ≤ .last
    · have planned : (start ttl interval failures now).deadline = now.plus interval :=
        deadlineAfter_of_le reached now
      refine .inl ⟨?_, planned.trans endOf_one.symm, planned ▸ reached⟩
      have none : intervalsOver interval now now.lastTick < 1 := by
        refine intervalsOver_lt_succ interval_pos ?_
        simp only [endOf_one, Instant.plus]
        omega
      exact (Nat.lt_one_iff.1 none).symm
    · have planned : (start ttl interval failures now).deadline = now.plus farFuture :=
        deadlineAfter_of_not_le reached now
      have here : endOf interval now 0 = now := by simp [endOf, Instant.plus]
      refine .inr ⟨0, Nat.zero_le _, endOf_one ▸ reached, .inl ⟨rfl, ?_⟩⟩
      rw [planned]
      exact here.symm ▸ Int.le_refl _

variable {keeper : Housekeeper}

/-- Sweeps that are due keep a housekeeper in step, or the next interval is cut short. -/
theorem InStep.runDue (inStep : keeper.InStep started now count)
    (interval_pos : 0 < keeper.interval.nanos) {more : Nat}
    (counted : keeper.dueCount later = more + 1) (due : keeper.deadlineAt more ≤ later.lastTick)
    (ahead : later.lastTick.offset < (keeper.deadlineAt (more + 1)).offset) (throttle : Throttle) :
    let after := (keeper.runDue throttle later).2.1
    after.InStep started later (count + (more + 1)) ∨
      after.CutShort started later (count + (more + 1)) := by
  intro after
  have interval_eq : after.interval = keeper.interval := interval_sweepTimes _ _ _ _
  have deadlineAt_eq (further : Nat) : keeper.deadlineAt further =
      endOf keeper.interval started (count + further + 1) := by
    rw [deadlineAt, inStep.deadline_eq]
    simp only [endOf, Instant.plus, Nat.add_mul, Instant.mk.injEq]
    omega
  have planned : after.deadline = deadlineAfter keeper.interval (keeper.deadlineAt more) later :=
    deadline_runDue counted due throttle
  have ended_eq : count + (more + 1) = intervalsOver keeper.interval started later.lastTick := by
    refine Nat.le_antisymm ?_ (Nat.le_of_lt_succ ?_)
    · exact le_intervalsOver interval_pos (deadlineAt_eq more ▸ due)
    · exact intervalsOver_lt_succ interval_pos (deadlineAt_eq (more + 1) ▸ ahead)
  by_cases reached : keeper.deadlineAt (more + 1) ≤ .last
  · rw [← deadlineAt_succ] at reached
    rw [deadlineAfter_of_le reached, deadlineAt_succ] at planned
    refine .inl ⟨interval_eq.symm ▸ ended_eq, ?_, ?_⟩
    · rw [planned, deadlineAt_eq, interval_eq]
    · rw [planned, ← deadlineAt_succ]
      exact reached
  · -- The last of these sweeps plans the next one in the far future.
    refine .inr ⟨count + (more + 1), ?_, ?_, .inl ⟨rfl, ?_⟩⟩
    · exact interval_eq.symm ▸ Nat.le_of_eq ended_eq
    · rw [interval_eq]
      exact deadlineAt_eq (more + 1) ▸ reached
    · rw [← deadlineAt_succ] at reached
      rw [planned, deadlineAfter_of_not_le reached, interval_eq]
      have begun : endOf keeper.interval started (count + (more + 1)) ≤ later :=
        deadlineAt_eq more ▸ Int.le_trans due later.lastTick_le
      exact Int.add_le_add_right begun _

/-- When no sweep is due a housekeeper stays in step. -/
theorem InStep.wait (inStep : keeper.InStep started now count)
    (interval_pos : 0 < keeper.interval.nanos) (forward : now ≤ later)
    (notYet : ¬ keeper.deadline ≤ later.lastTick) : keeper.InStep started later count := by
  refine { inStep with count_eq := Nat.le_antisymm ?_ (Nat.le_of_lt_succ ?_) }
  · rw [inStep.count_eq]
    exact intervalsOver_mono (Instant.lastTick_mono forward) _ _
  · rw [inStep.deadline_eq] at notYet
    exact intervalsOver_lt_succ interval_pos (Int.not_le.1 notYet)

/-- An interval that is cut short stays so, and sweeps are only made once the far future has
come. -/
theorem CutShort.runDue (cutShort : keeper.CutShort started now count) (forward : now ≤ later)
    (throttle : Throttle) :
    (keeper.runDue throttle later).2.1.CutShort started later
      (count + (keeper.runDue throttle later).1.length) := by
  obtain ⟨ended, passed, missed, ahead⟩ := cutShort
  have ticks := Instant.lastTick_mono forward
  have interval_eq : (keeper.runDue throttle later).2.1.interval = keeper.interval :=
    interval_sweepTimes _ _ _ _
  refine ⟨ended, ?_, ?_, ?_⟩ <;> rw [interval_eq]
  · exact Nat.le_trans passed (intervalsOver_mono ticks _ _)
  · exact missed
  · rcases ahead with ⟨rfl, far⟩ | come
    · by_cases due : keeper.deadline ≤ later.lastTick
      · exact .inr (Int.le_trans far due)
      · rw [runDue_of_dueCount_eq_zero (if_neg due)]
        exact .inl ⟨rfl, far⟩
    · exact .inr (Int.le_trans come ticks)

namespace OnSchedule

/-- Making the sweeps that are due keeps the schedule. -/
theorem runDue (schedule : keeper.OnSchedule started now count) (forward : now ≤ later)
    (throttle : Throttle) :
    (keeper.runDue throttle later).2.1.OnSchedule started later
      (count + (keeper.runDue throttle later).1.length) where
  interval_pos := by
    rw [Housekeeper.runDue, interval_sweepTimes]
    exact schedule.interval_pos
  begun := Int.le_trans schedule.begun forward
  ahead := lt_deadline_runDue schedule.interval_pos throttle later
  progress := by
    rcases schedule.progress with inStep | cutShort
    · by_cases due : keeper.deadline ≤ later.lastTick
      · obtain ⟨more, counted, last, ahead⟩ := exists_dueCount_eq schedule.interval_pos due
        have length_eq : (keeper.runDue throttle later).1.length = more + 1 :=
          (length_sweepTimes _ _ _ _).trans counted
        rw [length_eq]
        exact inStep.runDue schedule.interval_pos counted last ahead throttle
      · rw [runDue_of_dueCount_eq_zero (if_neg due)]
        exact .inl (inStep.wait schedule.interval_pos forward due)
    · exact .inr (cutShort.runDue forward throttle)

/-- A schedule has one sweep for each interval that is over at the last tick, unless the interval
under way is cut short. -/
theorem count_eq (schedule : keeper.OnSchedule started now count)
    (keeps : KeepsTime keeper.interval started now.lastTick) :
    count = intervalsOver keeper.interval started now.lastTick := by
  rcases schedule.progress with inStep | ⟨ended, passed, missed, ahead⟩
  · exact inStep.count_eq
  · have ended_eq : intervalsOver keeper.interval started now.lastTick = ended := by
      refine Nat.le_antisymm (Nat.le_of_not_lt fun further => missed ?_) passed
      exact Int.le_trans (endOf_succ_le further) now.lastTick_le_last
    rw [KeepsTime, ended_eq] at keeps
    rw [ended_eq]
    rcases ahead with ⟨same, -⟩ | come
    · exact same
    · exact absurd (keeps.resolve_left missed) (Int.not_lt.2 come)

end OnSchedule

end Housekeeper

namespace Watch

/-- Making the sweeps that are due leaves none. -/
theorem caughtUp_runDue {watch : Watch}
    (positive : ∀ keeper, watch = .running keeper → 0 < keeper.interval.nanos)
    (throttle : Throttle) (now : Instant) : (watch.runDue throttle now).2.1.CaughtUp now := by
  cases watch with
  | absent => trivial
  | broken => trivial
  | running keeper =>
      have interval_pos := positive keeper rfl
      refine ⟨?_, Housekeeper.lt_deadline_runDue interval_pos throttle now⟩
      simpa [Housekeeper.runDue] using interval_pos

/-- When no sweep is due nothing happens. -/
theorem CaughtUp.runDue_eq {watch : Watch} {now : Instant} (caughtUp : watch.CaughtUp now)
    (throttle : Throttle) : watch.runDue throttle now = ([], watch, throttle) := by
  cases watch with
  | absent => rfl
  | broken => rfl
  | running keeper =>
      simp [runDue, Housekeeper.runDue, Housekeeper.dueCount_of_lt caughtUp.2,
        Housekeeper.sweepTimes]

/-- A housekeeper never has an empty interval: one that is started with it breaks down. -/
theorem interval_pos_of_start {ttl interval : Duration} {failures : Nat} {now : Instant}
    {keeper : Housekeeper} (started : start ttl interval failures now = .running keeper) :
    0 < keeper.interval.nanos := by
  unfold start at started
  split at started
  · cases started
  · next positive =>
      obtain rfl := running.inj started
      exact Nat.pos_of_ne_zero positive

/-- A signal ends a housekeeper or leaves it as it is. -/
theorem running_of_signal {watch : Watch} {said : Signal} {keeper : Housekeeper}
    (still : (watch.signal said).2 = .running keeper) : watch = .running keeper := by
  cases watch with
  | absent => cases still
  | broken => cases still
  | running old =>
      simp only [signal] at still
      split at still
      · cases still
      · exact still

end Watch

end LoginThrottle
