import LoginThrottle.Proofs.Station.Service
import LoginThrottle.Proofs.Station.View
import LoginThrottle.Proofs.Throttle.Stops

/-!
# What a bucket was last used for

In service a bucket is charged by checks and filled up by resets, and nothing else is done to it
until a sweep takes it away.  If the limits allow for the cost of an attempt, the last of these
uses tells whether the bucket is full, and since when.

## Main Definitions

* `Use`: whether a bucket was charged or filled up
* `Station.useOf`: what an event does to the bucket of a value, if it comes by it
* `Station.lastUse`: what was last done to the bucket of a value in a run, and when
* `Use.Tells`: the last use tells what the bucket is like
* `Use.isStale`: what was last filled up long ago
* `Station.Lacking`: a bucket is alive and below its capacity

## Main Statements

* `Station.tells_react`, `Station.tells_keepHouse`: an event, and the sweeps behind it
* `Station.tells_run`: a run
* `Housekeeper.bucketAt?_sweepOnce`: a sweep takes away what is stale
* `Station.Lacking.run`: unless a reset fills it up, a bucket below its capacity stays alive
-/

namespace LoginThrottle

/-- What can be done to the bucket of a value in service. -/
inductive Use
  | charged
  | filled
  deriving DecidableEq, Repr

/-- The last use of a bucket and its reading tell what the bucket is like: once charged it is not
full, once filled up it is full and was last refilled then.  A bucket that was never used does
not exist. -/
inductive Use.Tells : Option (Use × Instant) → Option Bucket → Prop
  | gone (last : Option (Use × Instant)) : Tells last none
  | charged {time : Instant} {bucket : Bucket} (lacking : bucket.isFull = false) :
      Tells (some (.charged, time)) (some bucket)
  | filled {bucket : Bucket} (full : bucket.isFull = true) :
      Tells (some (.filled, bucket.lastRefill)) (some bucket)

/-- What was last filled up at least `ttl` ago is stale. -/
def Use.isStale (ttl : Duration) (now : Instant) : Option (Use × Instant) → Bool
  | some (.filled, time) => decide (ttl ≤ now.since time)
  | _ => false

namespace Use.Tells

variable {last : Option (Use × Instant)} {held : Option Bucket} {bucket : Bucket}

/-- A live bucket is full exactly if it was last filled up. -/
theorem isFull_iff (tells : Tells last (some bucket)) :
    bucket.isFull = true ↔ ∃ time, last = some (.filled, time) := by
  cases tells with
  | charged lacking =>
      constructor
      · intro full
        rw [lacking] at full
        cases full
      · rintro ⟨time, ⟨⟩⟩
  | filled full => exact ⟨fun _ => ⟨_, rfl⟩, fun _ => full⟩

/-- It has expired exactly if it was last filled up long ago. -/
theorem isExpired_eq (tells : Tells last (some bucket)) (ttl : Duration) (now : Instant) :
    Sweep.isExpired ttl now bucket = isStale ttl now last := by
  cases tells with
  | charged lacking =>
      rw [Sweep.isExpired, lacking, Bool.false_and]
      rfl
  | filled full => rw [Sweep.isExpired, full, Bool.true_and, isStale, Bucket.idleFor]

end Use.Tells

/-! ### Throttles -/

namespace Throttle

variable {last : Option (Use × Instant)} {throttle after : Throttle} {dimension value : String}

/-- Nothing can be told of a bucket that is gone, and nothing else has changed. -/
theorem tells_of_evict {key : String} (evicted : throttle.evict key = .ok after)
    (tells : Use.Tells last (throttle.bucketAt? dimension value)) :
    Use.Tells last (after.bucketAt? dimension value) := by
  rcases bucketAt?_of_evict evicted dimension value with gone | same
  · rw [gone]
    exact .gone last
  · rw [same]
    exact tells

end Throttle

/-- A sweep of a housekeeper whose deletions do not fail takes away what is stale, and nothing
else. -/
theorem Housekeeper.bucketAt?_sweepOnce {keeper : Housekeeper} {throttle : Throttle}
    {last : String × String → Option (Use × Instant)} (sure : keeper.failures = 0)
    (named : throttle.ServesNamed)
    (tells : ∀ pair, Use.Tells (last pair) (throttle.bucketAt? pair.1 pair.2)) (now : Instant) :
    ∃ evicted after, keeper.sweepOnce throttle now =
        (.finished evicted after.bucketCount,
          { keeper with deadline := deadlineAfter keeper.interval keeper.deadline now }, after) ∧
      evicted + after.bucketCount = throttle.bucketCount ∧
      ∀ pair : String × String, after.bucketAt? pair.1 pair.2 =
        if Use.isStale keeper.ttl now (last pair) then none
        else throttle.bucketAt? pair.1 pair.2 := by
  obtain ⟨after, swept, lost⟩ := keeper.sweepOnce_eq sure named now
  refine ⟨_, after, swept, lost.length_add_bucketCount, fun pair => ?_⟩
  have told := tells pair
  rw [lost.bucketAt?_filter]
  cases found : throttle.bucketAt? pair.1 pair.2 with
  | none => rw [Option.filter_none, ite_self]
  | some bucket =>
      rw [found] at told
      rw [Option.filter_some, told.isExpired_eq]
      cases Use.isStale keeper.ttl now (last pair) <;> rfl

/-! ### Guards -/

namespace Guard

/-- The pairs that a check at a gate comes by, if the lists leave it to the throttle. -/
def chargedBy (guard : Guard) (gate : Gate) (identity : Identity) (now : Instant) :
    List (String × String) :=
  match gate with
  | .throttle => guard.throttle.chargedBy identity now
  | .login =>
      match (guard.screen identity).1 with
      | .ok .undecided => guard.throttle.chargedBy identity now
      | _ => []
  | .list _ => []

/-- The pairs that a reset at a gate comes by. -/
def filledBy (guard : Guard) (gate : Gate) (identity : Identity) (now : Instant) :
    List (String × String) :=
  match gate with
  | .throttle | .login => guard.throttle.filledBy identity now
  | .list _ => []

/-- A check leaves the buckets that it comes by below their capacities, and others as they are. -/
theorem bucketAt?_check {guard : Guard} (sound : guard.throttle.Sound)
    (affords : guard.throttle.Affords) (gate : Gate) (identity : Identity) (now : Instant)
    (pair : String × String) :
    (pair ∉ guard.chargedBy gate identity now →
        (guard.check gate identity now).2.throttle.bucketAt? pair.1 pair.2 =
          guard.throttle.bucketAt? pair.1 pair.2) ∧
      (pair ∈ guard.chargedBy gate identity now →
        ∃ bucket, (guard.check gate identity now).2.throttle.bucketAt? pair.1 pair.2 =
            some bucket ∧ bucket.isFull = false) := by
  have charged := Throttle.bucketAt?_satisfy sound affords identity now pair
  cases gate with
  | throttle => exact charged
  | list kind =>
      rw [check, throttle_checkList]
      exact ⟨fun _ => rfl, fun stop => absurd stop List.not_mem_nil⟩
  | login =>
      have screened := guard.throttle_screen identity
      rw [check, chargedBy, decide]
      cases answered : guard.screen identity with
      | mk result after =>
          rw [answered] at screened
          simp only at screened
          rcases result with fault | _ | _ | _
          · exact ⟨fun _ => by rw [screened], fun stop => absurd stop List.not_mem_nil⟩
          · exact ⟨fun _ => by rw [screened], fun stop => absurd stop List.not_mem_nil⟩
          · exact ⟨fun _ => by rw [screened], fun stop => absurd stop List.not_mem_nil⟩
          · simp only [withThrottle, screened]
            exact charged

/-- A reset fills up the buckets that it comes by, and leaves others as they are. -/
theorem bucketAt?_reset (guard : Guard) (gate : Gate) (identity : Identity) (now : Instant)
    (pair : String × String) :
    (guard.reset gate identity now).2.throttle.bucketAt? pair.1 pair.2 =
      if pair ∈ guard.filledBy gate identity now then
        (guard.throttle.bucketAt? pair.1 pair.2).map fun bucket => bucket.reset now
      else
        guard.throttle.bucketAt? pair.1 pair.2 := by
  cases gate with
  | list kind => rfl
  | _ => exact guard.throttle.bucketAt?_reset identity now pair

end Guard

/-! ### Stations -/

namespace Station

/-- What an event does to the bucket of a value in a dimension, if it comes by it. -/
def useOf (station : Station) (event : Event) (pair : String × String) : Option Use :=
  match event with
  | .check gate identity =>
      if pair ∈ station.guard.chargedBy gate identity station.now then some .charged else none
  | .reset gate identity =>
      if pair ∈ station.guard.filledBy gate identity station.now then some .filled else none
  | _ => none

/-- What an event does to the bucket of a value in a dimension, and when. -/
def timedUse (station : Station) (event : Event) (pair : String × String) :
    Option (Use × Instant) :=
  (station.useOf event pair).map fun use => (use, station.now)

/-- What was last done to the bucket of a value in a run, and when. -/
def lastUse (station : Station) : List Event → String × String → Option (Use × Instant)
  | [], _ => none
  | event :: events, pair =>
      ((station.step event).station.lastUse events pair).or (station.timedUse event pair)

/-- A run that is cut in two parts: the later uses count. -/
theorem lastUse_append (station : Station) (first second : List Event) (pair : String × String) :
    station.lastUse (first ++ second) pair =
      ((station.run first).lastUse second pair).or (station.lastUse first pair) := by
  induction first generalizing station with
  | nil => rw [List.nil_append, run_nil, lastUse, Option.or_none]
  | cons event rest inductionHypothesis =>
      rw [List.cons_append, lastUse, lastUse, run_cons, inductionHypothesis, Option.or_assoc]

theorem lastUse_concat (station : Station) (events : List Event) (event : Event)
    (pair : String × String) :
    station.lastUse (events ++ [event]) pair =
      ((station.run events).timedUse event pair).or (station.lastUse events pair) := by
  rw [lastUse_append, lastUse, lastUse, Option.none_or]

/-- Only resets fill buckets up, those of values that they name. -/
theorem resets_of_timedUse {station : Station} {event : Event} {pair : String × String}
    {time : Instant} (used : station.timedUse event pair = some (.filled, time)) :
    event.resets pair.1 pair.2 = true := by
  obtain ⟨use, used, same⟩ := Option.map_eq_some_iff.1 used
  obtain ⟨rfl, -⟩ := Prod.mk.inj same
  cases event with
  | check gate identity =>
      simp only [useOf] at used
      split at used <;> cases used
  | reset gate identity =>
      simp only [useOf] at used
      split at used
      · next stop =>
          cases gate with
          | list kind => cases stop
          | _ =>
              have named := Throttle.mem_of_mem_filledBy stop
              exact beq_iff_eq.2 (Identity.get?_eq_some_iff.2 named)
      · cases used
  | _ => cases used

theorem exists_reset_of_lastUse {station : Station} {events : List Event}
    {pair : String × String} {time : Instant}
    (used : station.lastUse events pair = some (.filled, time)) :
    ∃ event ∈ events, event.resets pair.1 pair.2 = true := by
  induction events generalizing station with
  | nil => cases used
  | cons event rest inductionHypothesis =>
      rw [lastUse, Option.or_eq_some_iff] at used
      rcases used with later | ⟨-, now⟩
      · obtain ⟨other, member, resets⟩ := inductionHypothesis later
        exact ⟨other, List.mem_cons_of_mem event member, resets⟩
      · exact ⟨event, List.mem_cons_self, resets_of_timedUse now⟩

variable {limits : List Limit} {cost : Nat} {station : Station} {event : Event}
  {last : Option (Use × Instant)} {pair : String × String}

theorem Serving.affords (serving : station.Serving limits cost)
    (affordable : ∀ limit ∈ limits, max cost 1 ≤ limit.capacity) :
    station.guard.throttle.Affords := by
  unfold Throttle.Affords
  rw [serving.limits_eq, serving.cost_eq]
  exact affordable

/-- After an event the last use still tells what a bucket is like. -/
theorem tells_react (sound : station.guard.throttle.Sound)
    (affords : station.guard.throttle.Affords) (service : event.isService = true)
    (tells : Use.Tells last (station.guard.throttle.bucketAt? pair.1 pair.2)) :
    Use.Tells ((station.timedUse event pair).or last)
      ((station.react event).2.guard.throttle.bucketAt? pair.1 pair.2) := by
  cases event with
  | check gate identity =>
      obtain ⟨passed, charged⟩ := Guard.bucketAt?_check sound affords gate identity station.now pair
      simp only [timedUse, useOf]
      split
      · next stop =>
          obtain ⟨bucket, found, lacking⟩ := charged stop
          rw [show (station.react (.check gate identity)).2.guard =
            (station.guard.check gate identity station.now).2 from rfl, found]
          exact .charged lacking
      · next apart =>
          rw [show (station.react (.check gate identity)).2.guard =
            (station.guard.check gate identity station.now).2 from rfl, passed apart]
          exact tells
  | reset gate identity =>
      have reset := station.guard.bucketAt?_reset gate identity station.now pair
      simp only [timedUse, useOf]
      rw [show (station.react (.reset gate identity)).2.guard =
        (station.guard.reset gate identity station.now).2 from rfl, reset]
      split
      · cases station.guard.throttle.bucketAt? pair.1 pair.2 with
        | none => exact .gone _
        | some bucket => exact .filled (bucket.isFull_reset station.now)
      · exact tells
  | sweep ttl failures =>
      exact Throttle.sweep_preserves
        (fun throttle => Use.Tells last (throttle.bucketAt? pair.1 pair.2))
        Throttle.tells_of_evict ttl station.now failures tells
  | checkAll gate identities => cases service
  | allowed identity => cases service
  | setCost cost => cases service
  | evict key => cases service
  | withdraw key cost => cases service
  | _ => exact tells

/-- Sweeps that are due only take buckets away. -/
theorem tells_keepHouse (tells : Use.Tells last (station.guard.throttle.bucketAt? pair.1 pair.2)) :
    Use.Tells last (station.keepHouse.2.guard.throttle.bucketAt? pair.1 pair.2) :=
  Throttle.runDue_preserves (fun throttle => Use.Tells last (throttle.bucketAt? pair.1 pair.2))
    Throttle.tells_of_evict station.watch station.now tells

/-- After every run the last use tells what a bucket is like. -/
theorem tells_run (serving : station.Serving limits cost)
    (affordable : ∀ limit ∈ limits, max cost 1 ≤ limit.capacity) {events : List Event}
    (service : ∀ event ∈ events, event.isService = true)
    (tells : Use.Tells last (station.guard.throttle.bucketAt? pair.1 pair.2)) :
    Use.Tells ((station.lastUse events pair).or last)
      ((station.run events).guard.throttle.bucketAt? pair.1 pair.2) := by
  induction events generalizing station last with
  | nil => exact tells
  | cons event rest inductionHypothesis =>
      have serviceNow := service event List.mem_cons_self
      have serviceLater other member := service other (List.mem_cons_of_mem event member)
      have reacted := tells_react serving.sound (serving.affords affordable) serviceNow tells
      rw [run_cons, lastUse, Option.or_assoc]
      exact inductionHypothesis (serving.step serviceNow) serviceLater (tells_keepHouse reacted)

/-! ### Runs without resets -/

/-- The bucket of a value is alive and below its capacity. -/
def Lacking (station : Station) (pair : String × String) : Prop :=
  ∃ bucket, station.guard.throttle.bucketAt? pair.1 pair.2 = some bucket ∧ bucket.isFull = false

theorem servesNamed_react (sound : station.guard.throttle.Sound)
    (named : station.guard.throttle.Named) (service : event.isService = true) :
    (station.react event).2.guard.throttle.ServesNamed := by
  have moves := moves_react sound named (Event.isRoutine_of_isService service)
  exact (moves.sound sound).servesNamed (moves.named named)

theorem Lacking.react (lacking : station.Lacking pair) (sound : station.guard.throttle.Sound)
    (named : station.guard.throttle.Named) (affords : station.guard.throttle.Affords)
    (service : event.isService = true) (unfilled : event.resets pair.1 pair.2 = false) :
    (station.react event).2.Lacking pair := by
  obtain ⟨bucket, found, below⟩ := lacking
  cases event with
  | check gate identity =>
      obtain ⟨passed, charged⟩ := Guard.bucketAt?_check sound affords gate identity station.now pair
      by_cases stop : pair ∈ station.guard.chargedBy gate identity station.now
      · exact charged stop
      · exact ⟨bucket, (passed stop).trans found, below⟩
  | reset gate identity =>
      have apart : pair ∉ station.guard.filledBy gate identity station.now := by
        intro stop
        have used : station.timedUse (.reset gate identity) pair = some (.filled, station.now) := by
          rw [timedUse, useOf, if_pos stop, Option.map_some]
        rw [resets_of_timedUse used] at unfilled
        cases unfilled
      have reset := station.guard.bucketAt?_reset gate identity station.now pair
      rw [if_neg apart] at reset
      exact ⟨bucket, reset.trans found, below⟩
  | sweep ttl failures =>
      exact ⟨bucket, Throttle.bucketAt?_sweep_of_lacking (sound.servesNamed named) found below ttl
        station.now failures, below⟩
  | checkAll gate identities => cases service
  | allowed identity => cases service
  | setCost cost => cases service
  | evict key => cases service
  | withdraw key cost => cases service
  | _ => exact ⟨bucket, found, below⟩

/-- Without a reset that fills it up, a bucket below its capacity stays below it, and alive. -/
theorem Lacking.run (lacking : station.Lacking pair) (serving : station.Serving limits cost)
    (affordable : ∀ limit ∈ limits, max cost 1 ≤ limit.capacity) {events : List Event}
    (service : ∀ event ∈ events, event.isService = true)
    (unfilled : ∀ event ∈ events, event.resets pair.1 pair.2 = false) :
    (station.run events).Lacking pair := by
  induction events generalizing station with
  | nil => exact lacking
  | cons event rest inductionHypothesis =>
      have serviceNow := service event List.mem_cons_self
      have serviceLater other member := service other (List.mem_cons_of_mem event member)
      have unfilledLater other member := unfilled other (List.mem_cons_of_mem event member)
      obtain ⟨bucket, found, below⟩ := lacking.react serving.sound serving.named
        (serving.affords affordable) serviceNow (unfilled event List.mem_cons_self)
      have named := servesNamed_react serving.sound serving.named serviceNow
      have kept := (station.react event).2.watch.bucketAt?_runDue_of_lacking named found below
        (station.react event).2.now
      rw [run_cons]
      exact inductionHypothesis ⟨bucket, kept, below⟩ (serving.step serviceNow) serviceLater
        unfilledLater

end Station

end LoginThrottle
