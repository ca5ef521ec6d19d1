import LoginThrottle.Proofs.App.AtStation
import LoginThrottle.Proofs.Station.Log

/-!
# The rate at which attempts are paid for

However clients time their attempts, and whatever is swept in between, no value gets more
tokens out of a dimension than one full bucket and what the rate earns.

## Main Definitions

* `Station.Orderly`: what the bound needs of a station, and what events preserve

## Main Statements

* `Throttle.Moves.reserve_le`: payments come out of the reserve of a value
* `Station.withdrawals_bounded`: the bound for every run and every window of time

## Design Notes

Before the window nothing is counted, and at its first reading the reserve of the value is at
most the capacity, what the rate earns in the window, and one token.  From then on every
payment comes out of the reserve.  A bucket that is forgotten was full, and the new one that
takes its place has no larger reserve than a full one.
-/

namespace LoginThrottle

/-! ### The reserve of a value along moves -/

namespace Throttle

variable {now : Instant} {first second : Throttle} {deeds : List Deed}
  {dimension : String} {capacity : Nat}

/-- A payment comes out of the reserve of a value, and only a reset raises the reserve. -/
theorem Move.reserve_le (move : Move now first deeds second) (sound : first.Sound)
    (ending : Instant)
    (limited : Limit.capacityOf? first.store.limits dimension = some capacity) (value : String) :
    withdrawn dimension value deeds +
        Bucket.reserveOf capacity first.rate now ending (second.bucketAt? dimension value) ≤
      Bucket.reserveOf capacity first.rate now ending (first.bucketAt? dimension value) +
        capacity * forgiven dimension value deeds := by
  rcases move.bucketAt?_cases dimension value with
    ⟨same, unpaid⟩ | ⟨meter, effect, served, touch, paid, filled⟩
  · rw [same, unpaid, Nat.zero_add]
    exact Nat.le_add_right _ _
  · have soundMeter := sound dimension meter served
    obtain rfl := Option.some.inj (soundMeter.capacity_eq.symm.trans limited)
    rw [paid, filled, ← soundMeter.rate_eq]
    exact touch.reserve_le (sound.fits_bucketAt? served value) ending

/-- Payments come out of the reserve of a value, and only resets raise the reserve. -/
theorem Moves.reserve_le (moves : Moves now first deeds second) (sound : first.Sound)
    (ending : Instant)
    (limited : Limit.capacityOf? first.store.limits dimension = some capacity) (value : String) :
    withdrawn dimension value deeds +
        Bucket.reserveOf capacity first.rate now ending (second.bucketAt? dimension value) ≤
      Bucket.reserveOf capacity first.rate now ending (first.bucketAt? dimension value) +
        capacity * forgiven dimension value deeds := by
  induction moves with
  | none throttle => simp [withdrawn, forgiven]
  | more move others inductionHypothesis =>
      have now_le := move.reserve_le sound ending limited value
      have later_le := inductionHypothesis (move.sound sound)
        (by rw [move.limits_eq]; exact limited)
      rw [move.rate_eq] at later_le
      rw [withdrawn_append, forgiven_append, Nat.mul_add]
      omega

end Throttle

/-! ### Orderly stations -/

namespace Station

/-- The throttle is sound, its limits have proper names, and no bucket was refilled in the
future. -/
structure Orderly (station : Station) : Prop where
  sound : station.guard.throttle.Sound
  named : station.guard.throttle.Named
  refilled : station.guard.throttle.RefilledBy station.now

/-- A station whose throttle has no meters yet is orderly. -/
theorem orderly_of_unmade {station : Station} (unmade : station.guard.throttle.meters = none)
    (named : station.guard.throttle.Named) : station.Orderly :=
  ⟨Throttle.sound_of_none unmade, named, Throttle.refilledBy_of_none unmade station.now⟩

variable {station : Station} {event : Event} {starting ending : Instant}
  {dimension : String} {capacity : Nat}

theorem Orderly.moves_step (orderly : station.Orderly) (routine : event.isRoutine = true) :
    Throttle.Moves (station.step event).station.now station.guard.throttle (station.log event)
      (station.step event).station.guard.throttle :=
  Station.moves_step orderly.sound orderly.named routine

theorem Orderly.step (orderly : station.Orderly) (routine : event.isRoutine = true)
    (forward : event.isForward = true) : (station.step event).station.Orderly :=
  have moves := orderly.moves_step routine
  have passed := station.le_now_react forward
  ⟨moves.sound orderly.sound, moves.named orderly.named,
    moves.refilledBy (orderly.refilled.mono passed)⟩

/-- The log of an orderly station accounts for every run. -/
theorem Orderly.accounts (orderly : station.Orderly) {events : List Event}
    (allowed : ∀ event ∈ events, event.isRoutine = true ∧ event.isForward = true) :
    station.Accounts events := by
  induction events generalizing station with
  | nil => trivial
  | cons event rest inductionHypothesis =>
      obtain ⟨routine, forward⟩ := allowed event List.mem_cons_self
      have allowedLater other member := allowed other (List.mem_cons_of_mem event member)
      exact ⟨orderly.moves_step routine,
        inductionHypothesis (orderly.step routine forward) allowedLater⟩

/-- The reserve of a value at a station. -/
def reserve (station : Station) (capacity : Nat) (ending : Instant) (dimension value : String) :
    Nat :=
  Bucket.reserveOf capacity station.guard.throttle.rate station.now ending
    (station.guard.throttle.bucketAt? dimension value)

/-- At any reading the reserve is at most a full bucket, what the rate will have earned, and
one token. -/
theorem reserve_le (orderly : station.Orderly)
    (limited : Limit.capacityOf? station.guard.throttle.store.limits dimension = some capacity)
    (ending : Instant) (value : String) :
    station.reserve capacity ending dimension value ≤
      capacity + 1 + station.guard.throttle.rate.accrual (ending.since station.now) := by
  refine Bucket.reserveOf_le ?_ station.now ending
  cases served : station.guard.throttle.currentMeters.find? dimension with
  | none =>
      intro bucket found
      rw [Throttle.bucketAt?, served] at found
      cases found
  | some meter =>
      have soundMeter := orderly.sound dimension meter served
      obtain rfl := Option.some.inj (soundMeter.capacity_eq.symm.trans limited)
      rw [← soundMeter.rate_eq]
      exact orderly.sound.fits_bucketAt? served value

/-- What an event pays comes out of the reserve. -/
theorem reserve_step_le (orderly : station.Orderly) (routine : event.isRoutine = true)
    (forward : event.isForward = true) (ahead : (station.step event).station.now ≤ ending)
    (limited : Limit.capacityOf? station.guard.throttle.store.limits dimension = some capacity)
    (value : String) :
    withdrawn dimension value (station.log event) +
        (station.step event).station.reserve capacity ending dimension value ≤
      station.reserve capacity ending dimension value +
        capacity * forgiven dimension value (station.log event) := by
  have moves := orderly.moves_step routine
  have passed := station.le_now_react forward
  have less := Bucket.reserveOf_antitone capacity station.guard.throttle.rate
    (orderly.refilled dimension value) passed ahead
  have paid := moves.reserve_le orderly.sound ending limited value
  rw [reserve, moves.rate_eq, reserve]
  rw [now_step] at paid ⊢
  omega

/-! ### Runs -/

/-- Once the window has passed, nothing is counted any more. -/
theorem logWithin_of_lt {events : List Event}
    (forward : ∀ event ∈ events, event.isForward = true)
    (passed : ending.offset < station.now.offset) (starting : Instant) :
    station.logWithin starting ending events = [] := by
  induction events generalizing station with
  | nil => rfl
  | cons event rest inductionHypothesis =>
      have later := station.le_now_react (forward event List.mem_cons_self)
      have outside : ¬ (starting ≤ station.now ∧ station.now ≤ ending) := by
        simp only [Instant.le_def]
        omega
      rw [logWithin, if_neg outside, List.nil_append]
      have forwardLater other member := forward other (List.mem_cons_of_mem event member)
      refine inductionHypothesis forwardLater ?_
      rw [now_step]
      rw [Instant.le_def] at later
      omega

/-- Within the window payments come out of the reserve at its beginning. -/
theorem withdrawn_le_reserve {events : List Event} (orderly : station.Orderly)
    (allowed : ∀ event ∈ events, event.isRoutine = true ∧ event.isForward = true)
    (begun : starting ≤ station.now)
    (limited : Limit.capacityOf? station.guard.throttle.store.limits dimension = some capacity)
    (ending : Instant) (value : String) :
    withdrawn dimension value (station.logWithin starting ending events) ≤
      station.reserve capacity ending dimension value +
        capacity * forgiven dimension value (station.logWithin starting ending events) := by
  induction events generalizing station with
  | nil => exact Nat.zero_le _
  | cons event rest inductionHypothesis =>
      obtain ⟨routine, forward⟩ := allowed event List.mem_cons_self
      have allowedLater other member := allowed other (List.mem_cons_of_mem event member)
      have forwardLater other member := (allowedLater other member).2
      have passed := station.le_now_react forward
      by_cases ahead : (station.step event).station.now ≤ ending
      · have inside : starting ≤ station.now ∧ station.now ≤ ending :=
          ⟨begun, Int.le_trans passed ahead⟩
        have moves := orderly.moves_step routine
        have paid := reserve_step_le orderly routine forward ahead limited value
        have paidLater := inductionHypothesis (orderly.step routine forward) allowedLater
          (Int.le_trans begun passed) (by rw [moves.limits_eq]; exact limited)
        rw [logWithin, if_pos inside, withdrawn_append, forgiven_append, Nat.mul_add]
        omega
      · -- The event has moved the clock beyond the window, or the clock was there before.
        have after : ending.offset < (station.step event).station.now.offset := by
          rw [Instant.le_def] at ahead
          omega
        rw [logWithin, logWithin_of_lt forwardLater after, List.append_nil]
        split
        · next inside =>
            rcases station.now_react event with still | undone
            · rw [now_step, still] at ahead
              exact absurd inside.2 ahead
            · rw [undone]
              exact Nat.zero_le _
        · exact Nat.zero_le _

/-- What is paid for a value in a window of time. -/
theorem withdrawn_logWithin_le {events : List Event} (orderly : station.Orderly)
    (allowed : ∀ event ∈ events, event.isRoutine = true ∧ event.isForward = true)
    (limited : Limit.capacityOf? station.guard.throttle.store.limits dimension = some capacity)
    (starting ending : Instant) (value : String) :
    withdrawn dimension value (station.logWithin starting ending events) ≤
      capacity * (1 + station.resetsWithin starting ending dimension value events) +
        station.guard.throttle.rate.accrual (ending.since starting) + 1 := by
  induction events generalizing station with
  | nil => exact Nat.zero_le _
  | cons event rest inductionHypothesis =>
      by_cases begun : starting ≤ station.now
      · -- From the first reading in the window on, the reserve at it bounds all that is paid.
        have paid := withdrawn_le_reserve orderly allowed begun limited ending value
        have bounded := reserve_le orderly limited ending value
        have less := station.guard.throttle.rate.accrual_mono
          (Instant.since_le_since begun ending)
        rw [forgiven_logWithin] at paid
        rw [Nat.mul_add]
        omega
      · obtain ⟨routine, forward⟩ := allowed event List.mem_cons_self
        have allowedLater other member := allowed other (List.mem_cons_of_mem event member)
        have moves := orderly.moves_step routine
        have later := inductionHypothesis (orderly.step routine forward) allowedLater
          (by rw [moves.limits_eq]; exact limited)
        rw [moves.rate_eq] at later
        rw [logWithin, resetsWithin, if_neg fun inside => begun inside.1,
          if_neg fun inside => begun inside.1, List.nil_append, Nat.zero_add]
        exact later

/-- In every run, and in every window of it, no value gets more tokens out of a dimension than
the capacity, once more the capacity for each reset that names it, what the rate earns in the
window, and one token.  The log that says so accounts for the run.  The same holds for every
application. -/
theorem withdrawals_bounded :
    (∀ (station : Station) (events : List Event) (dimension value : String) (capacity : Nat)
      (starting ending : Instant),
      station.guard.throttle.meters = none →
      station.guard.throttle.Named →
      (∀ event ∈ events, event.isRoutine = true ∧ event.isForward = true) →
      Limit.capacityOf? station.guard.throttle.store.limits dimension = some capacity →
      station.Accounts events ∧
        withdrawn dimension value (station.logWithin starting ending events) ≤
          capacity * (1 + station.resetsWithin starting ending dimension value events) +
            station.guard.throttle.rate.count * (ending.since starting).nanos /
              station.guard.throttle.rate.window.nanos + 1) ∧
    ∀ (app : App) (fresh : String) (events : List App.Event) (dimension value : String)
      (capacity : Nat) (starting ending : Instant),
      app.Begun →
      app.station.guard.throttle.Named →
      (∀ event ∈ events, (event.atStation app.sweeping).isForward = true) →
      Limit.capacityOf? app.station.guard.throttle.store.limits dimension = some capacity →
      let atStation := events.map fun event => event.atStation app.sweeping
      (app.run fresh events).station = app.station.run atStation ∧
        app.station.Accounts atStation ∧
        withdrawn dimension value (app.station.logWithin starting ending atStation) ≤
          capacity * (1 + app.station.resetsWithin starting ending dimension value atStation) +
            app.station.guard.throttle.rate.count * (ending.since starting).nanos /
              app.station.guard.throttle.rate.window.nanos + 1 := by
  have bound (station : Station) (events : List Event) (dimension value : String)
      (capacity : Nat) (starting ending : Instant)
      (unmade : station.guard.throttle.meters = none) (named : station.guard.throttle.Named)
      (allowed : ∀ event ∈ events, event.isRoutine = true ∧ event.isForward = true)
      (limited : Limit.capacityOf? station.guard.throttle.store.limits dimension = some capacity) :=
    have orderly := orderly_of_unmade unmade named
    And.intro (orderly.accounts allowed)
      (withdrawn_logWithin_le orderly allowed limited starting ending value)
  refine ⟨bound, ?_⟩
  intro app fresh events dimension value capacity starting ending begun named forward limited
  refine ⟨app.station_run fresh events, ?_⟩
  refine bound app.station _ dimension value capacity starting ending begun.unmade named ?_ limited
  intro atStation member
  obtain ⟨event, happened, rfl⟩ := List.mem_map.1 member
  exact ⟨App.isRoutine_atStation app.sweeping event, forward event happened⟩

/-- An application that gives a login two tokens and earns one token in five seconds. -/
def twoTokens : App :=
  .ofStores (.reliable [.plain "login" 2, .plain "ip" 9, .plain "password" 9]) .never
    { refill := ⟨1, 5⟩, sweeping := ⟨true, 1, 5⟩ }

/-- Attempts before and after a reset, and a sweep that forgets the bucket in between. -/
def busyLogin : List App.Event :=
  [.startSweeping, .act (.check "10.0.0.8" "root" "first"),
    .act (.check "10.0.0.8" "root" "second"), .act (.check "10.0.0.8" "root" "third"),
    .act (.reset "10.0.0.8" "root"), .advance (.ofSeconds 5),
    .act (.check "10.0.0.8" "root" "fourth"), .act (.check "10.0.0.8" "root" "fifth"),
    .act (.check "10.0.0.8" "root" "sixth")]

/-- Four of six attempts are paid for in five seconds with one reset, and the bound is six. -/
theorem busyLogin_withdrawals :
    let atStation := busyLogin.map fun event => event.atStation twoTokens.sweeping
    let ending := Instant.origin.plus (.ofSeconds 5)
    let paid := withdrawn "login" "root" (twoTokens.station.logWithin .origin ending atStation)
    paid = 4 ∧
      paid ≤ 2 * (1 + twoTokens.station.resetsWithin .origin ending "login" "root" atStation) +
        1 * (ending.since .origin).nanos / 5000000000 + 1 := by
  intro atStation ending paid
  have begun : twoTokens.Begun := .ofStores _ _ _
  have named : twoTokens.station.guard.throttle.Named := by decide
  have forward : ∀ event ∈ busyLogin,
      (event.atStation twoTokens.sweeping).isForward = true := by decide
  have limited : Limit.capacityOf? twoTokens.station.guard.throttle.store.limits "login" =
      some 2 := by decide
  refine ⟨by decide +kernel, ?_⟩
  exact (withdrawals_bounded.2 twoTokens "" busyLogin "login" "root" 2 .origin ending begun named
    forward limited).2.2

end Station

end LoginThrottle
