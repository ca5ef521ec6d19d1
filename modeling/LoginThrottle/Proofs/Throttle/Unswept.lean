import LoginThrottle.Proofs.Rule.Journal
import LoginThrottle.Proofs.Throttle.Layout
import LoginThrottle.Proofs.Throttle.Operations
import LoginThrottle.Proofs.Throttle.Sweep

/-!
# Buckets that nobody misses

A full bucket that has earned a token since its last refill is refilled when it is next looked
at, to what a new bucket would be.  So nobody can tell whether it was forgotten in between.

## Main Definitions

* `Throttle.CountsFor`: the products of all buckets that an identity leads to fit
* `Bucket.Swept`: a bucket is kept in one place and may be gone in the other, if nobody misses it
* `Meter.Swept`, `Throttle.Swept`: the same for all buckets of a meter and of a throttle

## Main Statements

* `Bucket.Swept.refill_eq`: when they are looked at, both buckets are the same again
* `Throttle.Swept.satisfy`, `Throttle.Swept.allowed`, `Throttle.Swept.reset`: both throttles
  answer alike
* `Throttle.Swept.sweep`: a sweep with a time to live that earns a token takes nothing away that
  anybody would miss

## Design Notes

What a bucket has earned since its last refill only grows.  But if the product of count and time
starts over, a refill does not credit it.  So the product has to fit when a bucket is looked at
that may be gone elsewhere, and only then.
-/

namespace LoginThrottle

/-! ### Buckets -/

namespace Bucket

/-- A value has the same bucket in both places, if any, or its bucket is kept in the first place
only and nobody misses it: it is full, and a token has been earned since its last refill. -/
inductive Swept (capacity : Nat) (rate : RefillRate) (now : Instant) :
    Option Bucket → Option Bucket → Prop
  | same (held : Option Bucket) : Swept capacity rate now held held
  | gone {bucket : Bucket} (fits : bucket.Fits capacity rate) (full : bucket.isFull = true)
      (gained : 0 < bucket.rate.accrual (now.since bucket.lastRefill)) :
      Swept capacity rate now (some bucket) none

variable {capacity : Nat} {rate : RefillRate} {now : Instant} {kept left : Option Bucket}

theorem refill_fresh (capacity : Nat) (rate : RefillRate) (now : Instant) :
    (fresh capacity rate now).refill now = fresh capacity rate now := by
  apply refill_of_earned_eq_zero
  simp [earned, fresh]

/-- When they are looked at, both buckets are the same again, if the product of the one that was
kept fits. -/
theorem Swept.refill_eq (swept : Swept capacity rate now kept left)
    (counts : ∀ bucket ∈ kept, bucket.CountsTo now) :
    (kept.getD (fresh capacity rate now)).refill now =
      (left.getD (fresh capacity rate now)).refill now := by
  cases swept with
  | same => rfl
  | @gone bucket fits full gained =>
      have credited : bucket.earned now ≠ 0 :=
        mt (counts bucket rfl).earned_eq_zero_iff.mp (Nat.ne_of_gt gained)
      rw [Option.getD_some, Option.getD_none, refill_fresh, refill_of_earned_ne_zero credited]
      obtain ⟨rfl, rfl, -⟩ := fits
      have tokens_eq : bucket.tokens = bucket.capacity := eq_of_beq full
      rw [tokens_eq, Nat.min_eq_right (Nat.le_add_right _ _)]
      rfl

/-- A bucket that is left was kept. -/
theorem Swept.eq_some {bucket : Bucket} (swept : Swept capacity rate now kept (some bucket)) :
    kept = some bucket := by
  cases swept with
  | same => rfl

theorem Swept.mono {later : Instant} (swept : Swept capacity rate now kept left)
    (passed : now ≤ later) : Swept capacity rate later kept left := by
  cases swept with
  | same => exact .same kept
  | @gone bucket fits full gained =>
      have more := bucket.rate.accrual_mono (Instant.since_mono passed bucket.lastRefill)
      exact .gone fits full (Nat.lt_of_lt_of_le gained more)

/-- A bucket that is idle for as long as it takes to earn a token has earned one. -/
theorem forgettable_of_isExpired {bucket : Bucket} {ttl : Duration}
    (earns : 0 < bucket.rate.tokensFor ttl)
    (expired : Sweep.isExpired ttl now bucket = true) :
    bucket.isFull = true ∧ 0 < bucket.rate.accrual (now.since bucket.lastRefill) := by
  rw [Sweep.isExpired, Bool.and_eq_true, decide_eq_true_eq] at expired
  refine ⟨expired.1, Nat.lt_of_lt_of_le earns ?_⟩
  exact Nat.le_trans (bucket.rate.tokensFor_le_accrual ttl) (bucket.rate.accrual_mono expired.2)

theorem Fits.take {bucket : Bucket} (fits : bucket.Fits capacity rate) (cost : Nat)
    (now : Instant) : (bucket.take cost now).2.Fits capacity rate := by
  unfold Bucket.take
  simp only
  split
  · exact (fits.refill now).withdraw cost
  · exact fits.refill now

end Bucket

/-! ### Meters -/

namespace Meter

/-- A meter has lost at most buckets that nobody misses. -/
structure Swept (now : Instant) (kept left : Meter) : Prop where
  capacity_eq : left.capacity = kept.capacity
  rate_eq : left.rate = kept.rate
  cost_eq : left.cost = kept.cost
  fits : ∀ value bucket, kept.buckets.find? value = some bucket →
    bucket.Fits kept.capacity kept.rate
  buckets : ∀ value, Bucket.Swept kept.capacity kept.rate now (kept.buckets.find? value)
    (left.buckets.find? value)

variable {now : Instant} {kept left : Meter}

namespace Swept

theorem mono {later : Instant} (swept : Swept now kept left) (passed : now ≤ later) :
    Swept later kept left :=
  { swept with buckets := fun value => (swept.buckets value).mono passed }

/-- The bucket of one value may be exchanged on both sides. -/
theorem withBucket (swept : Swept now kept left) (value : String) {first second : Option Bucket}
    (same : Bucket.Swept kept.capacity kept.rate now first second)
    (fits : ∀ bucket, first = some bucket → bucket.Fits kept.capacity kept.rate) :
    Swept now (kept.withBucket value first) (left.withBucket value second) where
  capacity_eq := by rw [capacity_withBucket, capacity_withBucket, swept.capacity_eq]
  rate_eq := by rw [rate_withBucket, rate_withBucket, swept.rate_eq]
  cost_eq := by rw [cost_withBucket, cost_withBucket, swept.cost_eq]
  fits := by
    intro name bucket found
    rw [capacity_withBucket, rate_withBucket]
    rw [find?_withBucket] at found
    split at found
    · exact fits bucket found
    · exact swept.fits name bucket found
  buckets := by
    intro name
    rw [capacity_withBucket, rate_withBucket, find?_withBucket, find?_withBucket]
    split
    · exact same
    · exact swept.buckets name

theorem file (swept : Swept now kept left) (value : String) {bucket : Bucket}
    (fits : bucket.Fits kept.capacity kept.rate) :
    Swept now (kept.file value bucket) (left.file value bucket) := by
  refine swept.withBucket value (.same (some bucket)) ?_
  rintro _ ⟨⟩
  exact fits

theorem refill_bucketOf (swept : Swept now kept left) {value : String}
    (counts : ∀ bucket ∈ kept.buckets.find? value, bucket.CountsTo now) :
    (kept.bucketOf value now).refill now = (left.bucketOf value now).refill now := by
  rw [bucketOf, bucketOf, swept.capacity_eq, swept.rate_eq]
  exact (swept.buckets value).refill_eq counts

theorem fits_bucketOf (swept : Swept now kept left) (value : String) :
    (kept.bucketOf value now).Fits kept.capacity kept.rate :=
  Bucket.fits_getD (swept.fits value) now

theorem take (swept : Swept now kept left) {value : String}
    (counts : ∀ bucket ∈ kept.buckets.find? value, bucket.CountsTo now) :
    Corresponds (Swept now) (kept.take value now) (left.take value now) := by
  have same : (left.bucketOf value now).take left.cost now =
      (kept.bucketOf value now).take kept.cost now := by
    rw [Bucket.take, Bucket.take, swept.refill_bucketOf counts, swept.cost_eq]
  have fits := (swept.fits_bucketOf value).take kept.cost now
  rw [Meter.take, Meter.take, same]
  exact ⟨rfl, swept.file value fits⟩

theorem affordable (swept : Swept now kept left) {value : String}
    (counts : ∀ bucket ∈ kept.buckets.find? value, bucket.CountsTo now) :
    Corresponds (Swept now) (kept.affordable value now) (left.affordable value now) := by
  have same : (left.bucketOf value now).affordable left.cost now =
      (kept.bucketOf value now).affordable kept.cost now := by
    rw [Bucket.affordable, Bucket.affordable, swept.refill_bucketOf counts, swept.cost_eq]
  rw [Meter.affordable, Meter.affordable, same]
  exact ⟨rfl, swept.file value ((swept.fits_bucketOf value).refill now)⟩

/-- A bucket that is there can be filled up on both sides. -/
theorem reset (swept : Swept now kept left) {value : String}
    (live : left.buckets.find? value ≠ none) :
    Swept now (kept.reset value now) (left.reset value now) := by
  obtain ⟨bucket, found⟩ := Option.ne_none_iff_exists'.1 live
  have both := swept.buckets value
  rw [found] at both
  have filed := both.eq_some
  rw [Meter.reset, Meter.reset, found, filed]
  exact swept.file value ((swept.fits value bucket filed).reset now)

theorem setCost (swept : Swept now kept left) (cost : Nat) :
    Swept now (kept.setCost cost) (left.setCost cost) :=
  ⟨swept.capacity_eq, swept.rate_eq, rfl, swept.fits, swept.buckets⟩

/-- A bucket that nobody misses may be forgotten on one side. -/
theorem evict (swept : Swept now kept left) {value : String} {bucket : Bucket}
    (found : kept.buckets.find? value = some bucket) (full : bucket.isFull = true)
    (gained : 0 < bucket.rate.accrual (now.since bucket.lastRefill)) :
    Swept now kept (left.evict value) where
  capacity_eq := swept.capacity_eq
  rate_eq := swept.rate_eq
  cost_eq := swept.cost_eq
  fits := swept.fits
  buckets := by
    intro name
    change Bucket.Swept _ _ now _ ((left.buckets.erase value).find? name)
    rw [Keyed.find?_erase]
    split
    · next same =>
        rw [same, found]
        exact .gone (swept.fits value bucket found) full gained
    · exact swept.buckets name

end Swept

end Meter

/-! ### Meters by dimension -/

/-- Two collections have the same keys, and what they have filed under a key is related. -/
def Keyed.Agree {Value : Type} (related : Value → Value → Prop) (first second : Keyed Value) :
    Prop :=
  ∀ key, Option.Rel related (first.find? key) (second.find? key)

namespace Keyed.Agree

variable {Value : Type} {related : Value → Value → Prop} {first second : Keyed Value}

theorem put (agree : Agree related first second) (key : String) {one other : Value}
    (same : related one other) : Agree related (first.put key one) (second.put key other) := by
  intro name
  rw [find?_put, find?_put]
  split
  · exact .some same
  · exact agree name

theorem put_right (agree : Agree related first second) {key : String} {one other : Value}
    (found : first.find? key = some one) (same : related one other) :
    Agree related first (second.put key other) := by
  intro name
  rw [find?_put]
  split
  · next here =>
      rw [here, found]
      exact .some same
  · exact agree name

theorem mapValues (agree : Agree related first second) {later : Value → Value → Prop}
    {change : Value → Value}
    (keeps : ∀ {one other : Value}, related one other → later (change one) (change other)) :
    Agree later (first.mapValues change) (second.mapValues change) := by
  intro name
  have both := agree name
  rw [find?_mapValues, find?_mapValues]
  generalize first.find? name = one at both ⊢
  generalize second.find? name = other at both ⊢
  cases both with
  | some same => exact .some (keeps same)
  | none => exact .none

theorem mono (agree : Agree related first second) {later : Value → Value → Prop}
    (weaker : ∀ {one other : Value}, related one other → later one other) :
    Agree later first second := by
  intro name
  have both := agree name
  generalize first.find? name = one at both ⊢
  generalize second.find? name = other at both ⊢
  cases both with
  | some same => exact .some (weaker same)
  | none => exact .none

end Keyed.Agree

namespace Throttle

section Walks

variable {now : Instant} {kept left : Keyed Meter} {pairs : List (String × String)}

/-- The products of all buckets that pairs lead to fit. -/
def CountsAlong (now : Instant) (pairs : List (String × String)) (meters : Keyed Meter) : Prop :=
  ∀ pair ∈ pairs,
    ∀ bucket ∈ (meters.find? pair.1).bind fun meter => meter.buckets.find? pair.2,
      bucket.CountsTo now

namespace CountsAlong

variable {dimension value : String} {rest : List (String × String)} {meters : Keyed Meter}

theorem here (counts : CountsAlong now ((dimension, value) :: rest) meters) {meter : Meter}
    (served : meters.find? dimension = some meter) :
    ∀ bucket ∈ meter.buckets.find? value, bucket.CountsTo now := by
  intro bucket found
  refine counts _ List.mem_cons_self bucket ?_
  rw [served]
  exact found

/-- A walk that is past a dimension does not come back to it. -/
theorem ahead (counts : CountsAlong now ((dimension, value) :: rest) meters)
    (sorted : ((dimension, value) :: rest).Pairwise fun first second => first.1 < second.1)
    (meter : Meter) : CountsAlong now rest (meters.put dimension meter) := by
  intro pair member
  rw [Keyed.find?_put_of_ne _ _ (Identity.ne_of_mem_sorted sorted member).symm]
  exact counts pair (List.mem_cons_of_mem _ member)

end CountsAlong

/-- A walk along some pairs charges meters alike if they have lost nothing that is missed. -/
theorem chargeAll_swept (agree : Keyed.Agree (Meter.Swept now) kept left)
    (sorted : pairs.Pairwise fun first second => first.1 < second.1)
    (counts : CountsAlong now pairs kept) :
    Corresponds (Keyed.Agree (Meter.Swept now)) (chargeAll now pairs kept)
      (chargeAll now pairs left) := by
  induction pairs generalizing kept left with
  | nil => exact ⟨rfl, agree⟩
  | cons pair rest inductionHypothesis =>
      obtain ⟨dimension, value⟩ := pair
      have both := agree dimension
      rw [chargeAll, chargeAll]
      generalize served : kept.find? dimension = one at both ⊢
      generalize left.find? dimension = other at both ⊢
      cases both with
      | none => exact ⟨rfl, agree⟩
      | some swept =>
          obtain ⟨paid, charged, chargedToo, taken, takenToo, sweptAfter⟩ :=
            (swept.take (counts.here served)).exists_eq
          simp only [taken, takenToo]
          cases paid with
          | false => exact ⟨rfl, agree.put dimension sweptAfter⟩
          | true =>
              exact inductionHypothesis (agree.put dimension sweptAfter)
                (List.pairwise_cons.1 sorted).2 (counts.ahead sorted charged)

theorem allowedAll_swept (agree : Keyed.Agree (Meter.Swept now) kept left)
    (sorted : pairs.Pairwise fun first second => first.1 < second.1)
    (counts : CountsAlong now pairs kept) (least : Nat) :
    Corresponds (Keyed.Agree (Meter.Swept now)) (allowedAll now least pairs kept)
      (allowedAll now least pairs left) := by
  induction pairs generalizing kept left least with
  | nil => exact ⟨rfl, agree⟩
  | cons pair rest inductionHypothesis =>
      obtain ⟨dimension, value⟩ := pair
      have both := agree dimension
      rw [allowedAll, allowedAll]
      generalize served : kept.find? dimension = one at both ⊢
      generalize left.find? dimension = other at both ⊢
      cases both with
      | none => exact ⟨rfl, agree⟩
      | some swept =>
          obtain ⟨attempts, looked, lookedToo, counted, countedToo, sweptAfter⟩ :=
            (swept.affordable (counts.here served)).exists_eq
          simp only [counted, countedToo]
          exact inductionHypothesis (agree.put dimension sweptAfter)
            (List.pairwise_cons.1 sorted).2 (counts.ahead sorted looked) _

/-- A walk along pairs whose buckets are all there fills them up alike. -/
theorem resetAll_swept (agree : Keyed.Agree (Meter.Swept now) kept left)
    (sorted : pairs.Pairwise fun first second => first.1 < second.1)
    (live : ∀ pair ∈ pairs, ∃ meter, left.find? pair.1 = some meter ∧
      meter.buckets.find? pair.2 ≠ none) :
    Corresponds (Keyed.Agree (Meter.Swept now)) (resetAll now pairs kept)
      (resetAll now pairs left) := by
  induction pairs generalizing kept left with
  | nil => exact ⟨rfl, agree⟩
  | cons pair rest inductionHypothesis =>
      obtain ⟨dimension, value⟩ := pair
      obtain ⟨meter, served, alive⟩ := live _ List.mem_cons_self
      have both := agree dimension
      simp only at served alive
      rw [resetAll, resetAll]
      rw [served] at both ⊢
      generalize kept.find? dimension = one at both ⊢
      cases both with
      | some swept =>
          refine inductionHypothesis (agree.put dimension (swept.reset alive))
            (List.pairwise_cons.1 sorted).2 ?_
          intro other member
          obtain ⟨own, servedToo, aliveToo⟩ := live other (List.mem_cons_of_mem _ member)
          have elsewhere := (Identity.ne_of_mem_sorted sorted member).symm
          exact ⟨own, by rw [Keyed.find?_put_of_ne _ _ elsewhere, servedToo], aliveToo⟩

end Walks

/-! ### Throttles -/

/-- The dimensions served have proper names. -/
def ServesNamed (throttle : Throttle) : Prop :=
  ∀ dimension ∈ throttle.dimensions, isDimensionName dimension = true

/-- A throttle with meters has lost at most buckets that nobody misses. -/
structure Swept (rate : RefillRate) (now : Instant) (kept left : Throttle) : Prop where
  sound : kept.Sound
  named : kept.ServesNamed
  rate_kept : kept.rate = rate
  rate_left : left.rate = rate
  agree : ∃ meters fewer, kept.meters = some meters ∧ left.meters = some fewer ∧
    Keyed.Agree (Meter.Swept now) meters fewer

/-- The products of all buckets that an identity leads to fit. -/
def CountsFor (throttle : Throttle) (identity : Identity) (now : Instant) : Prop :=
  CountsAlong now identity.pairs throttle.currentMeters

instance (throttle : Throttle) (identity : Identity) (now : Instant) :
    Decidable (throttle.CountsFor identity now) :=
  inferInstanceAs (Decidable (∀ pair ∈ identity.pairs,
    ∀ bucket ∈ throttle.bucketAt? pair.1 pair.2, bucket.CountsTo now))

variable {rate : RefillRate} {now : Instant} {throttle after kept left : Throttle}
  {deeds : List Deed} {identity : Identity}

theorem Move.countsFor (move : Move now throttle deeds after)
    (counts : throttle.CountsFor identity now) : after.CountsFor identity now := by
  intro pair member bucket found
  rcases move.bucketAt?_cases pair.1 pair.2 with ⟨same, _⟩ | ⟨_, _, _, touch, _⟩
  · exact counts pair member bucket (same.symm.trans found)
  · exact touch.countsTo (counts pair member) bucket found

/-- What a throttle does at a reading makes no product larger. -/
theorem Moves.countsFor (moves : Moves now throttle deeds after)
    (counts : throttle.CountsFor identity now) : after.CountsFor identity now :=
  moves.preserves (fun throttle => throttle.CountsFor identity now)
    (fun move holds => move.countsFor holds) counts

/-- The dimensions served have proper names if all dimensions with a capacity do. -/
theorem LaidOut.servesNamed {store : LimitStore} {capacity : String → Option Nat}
    (laidOut : throttle.LaidOut store capacity)
    (proper : ∀ dimension, capacity dimension ≠ none → isDimensionName dimension = true) :
    throttle.ServesNamed := by
  intro dimension member
  rw [mem_dimensions_iff, laidOut.capacityAt?_eq] at member
  exact proper dimension member

/-- Moves of a throttle with meters leave the names of its dimensions. -/
theorem servesNamed_of_moves (moves : Moves now throttle deeds after)
    (made : throttle.meters ≠ none) (named : throttle.ServesNamed) : after.ServesNamed :=
  (moves.laidOut (laidOut_self made)).servesNamed fun dimension limited =>
    named dimension (mem_dimensions_iff.2 limited)

/-- A throttle that has lost nothing. -/
theorem Swept.refl (sound : throttle.Sound) (made : throttle.meters ≠ none)
    (named : throttle.ServesNamed) (now : Instant) :
    Swept throttle.rate now throttle throttle := by
  obtain ⟨meters, filed⟩ := Option.ne_none_iff_exists'.1 made
  refine ⟨sound, named, rfl, rfl, meters, meters, filed, filed, fun dimension => ?_⟩
  cases served : meters.find? dimension with
  | none => exact .none
  | some meter =>
      have agrees := sound dimension meter (by rw [currentMeters_of_some filed, served])
      exact .some ⟨rfl, rfl, rfl, agrees.fits, fun value => .same _⟩

namespace Swept

theorem made (swept : Swept rate now kept left) : kept.meters ≠ none := by
  obtain ⟨meters, -, filed, -, -⟩ := swept.agree
  rw [filed]
  exact Option.some_ne_none meters

theorem mono {later : Instant} (swept : Swept rate now kept left) (passed : now ≤ later) :
    Swept rate later kept left := by
  obtain ⟨meters, fewer, filed, filedToo, agree⟩ := swept.agree
  have agreeLater := agree.mono fun same => same.mono passed
  exact { swept with agree := ⟨meters, fewer, filed, filedToo, agreeLater⟩ }

/-- Both sides may file meters that agree, if the first one comes to them by moves. -/
theorem withMeters {Answer : Type} {first second : Except Fault Answer × Keyed Meter}
    (swept : Swept rate now kept left)
    (same : Corresponds (Keyed.Agree (Meter.Swept now)) first second)
    (moves : Moves now kept deeds { kept with meters := some first.2 }) :
    Corresponds (Swept rate now) (kept.withMeters first) (left.withMeters second) where
  answer := same.answer
  state := ⟨moves.sound swept.sound, servesNamed_of_moves moves swept.made swept.named,
    swept.rate_kept, swept.rate_left, first.2, second.2, rfl, rfl, same.state⟩

theorem satisfy (swept : Swept rate now kept left) (counts : kept.CountsFor identity now) :
    Corresponds (Swept rate now) (kept.satisfy identity now) (left.satisfy identity now) := by
  obtain ⟨meters, fewer, filed, filedToo, agree⟩ := swept.agree
  rw [Throttle.satisfy, Throttle.satisfy, ensureMeters, ensureMeters, filed, filedToo]
  split
  · exact ⟨rfl, swept⟩
  · rw [CountsFor, currentMeters_of_some filed] at counts
    exact swept.withMeters (chargeAll_swept agree identity.sorted counts)
      (moves_chargeAll now identity.pairs filed)

theorem allowed (swept : Swept rate now kept left) (counts : kept.CountsFor identity now) :
    Corresponds (Swept rate now) (kept.allowed identity now) (left.allowed identity now) := by
  obtain ⟨meters, fewer, filed, filedToo, agree⟩ := swept.agree
  rw [Throttle.allowed, Throttle.allowed, ensureMeters, ensureMeters, filed, filedToo]
  split
  · exact ⟨rfl, swept⟩
  · rw [CountsFor, currentMeters_of_some filed] at counts
    exact swept.withMeters (allowedAll_swept agree identity.sorted counts largestCount)
      (moves_allowedAll now identity.pairs largestCount filed)

/-- A reset of buckets that are there fills them up on both sides. -/
theorem reset (swept : Swept rate now kept left)
    (live : ∀ pair ∈ identity.pairs, left.bucketAt? pair.1 pair.2 ≠ none) :
    Corresponds (Swept rate now) (kept.reset identity now) (left.reset identity now) := by
  obtain ⟨meters, fewer, filed, filedToo, agree⟩ := swept.agree
  rw [Throttle.reset, Throttle.reset, filed, filedToo]
  split
  · exact ⟨rfl, swept⟩
  · refine swept.withMeters (resetAll_swept agree identity.sorted fun pair member => ?_)
      (moves_resetAll now identity.pairs filed)
    have alive := live pair member
    rw [bucketAt?, currentMeters_of_some filedToo] at alive
    cases served : fewer.find? pair.1 with
    | none =>
        rw [served] at alive
        exact absurd rfl alive
    | some meter =>
        rw [served] at alive
        exact ⟨meter, rfl, alive⟩

theorem setCost (swept : Swept rate now kept left) (cost : Nat) :
    Swept rate now (kept.setCost cost) (left.setCost cost) := by
  obtain ⟨meters, fewer, filed, filedToo, agree⟩ := swept.agree
  have moves := (@Move.price now kept cost).alone
  refine ⟨moves.sound swept.sound, servesNamed_of_moves moves swept.made swept.named,
    swept.rate_kept, swept.rate_left, meters.mapValues fun meter => meter.setCost cost,
    fewer.mapValues fun meter => meter.setCost cost, ?_, ?_, ?_⟩
  · exact Option.map_eq_some_iff.2 ⟨meters, filed, rfl⟩
  · exact Option.map_eq_some_iff.2 ⟨fewer, filedToo, rfl⟩
  · exact agree.mapValues fun same => same.setCost cost

end Swept

/-! ### Sweeps on one side -/

/-- A key leads to a bucket that nobody would miss. -/
def Missable (throttle : Throttle) (now : Instant) (key : String) : Prop :=
  ∃ dimension value bucket, key = bucketKey dimension value ∧
    isDimensionName dimension = true ∧ throttle.bucketAt? dimension value = some bucket ∧
    bucket.isFull = true ∧ 0 < bucket.rate.accrual (now.since bucket.lastRefill)

namespace Swept

theorem evict (swept : Swept rate now kept left) {key : String} (missable : kept.Missable now key)
    (evicted : left.evict key = .ok after) : Swept rate now kept after := by
  obtain ⟨dimension, value, bucket, rfl, named, found, full, gained⟩ := missable
  obtain ⟨other, name, meter, parts, served, rfl⟩ := exists_of_evict evicted
  rw [splitKey_bucketKey named] at parts
  obtain ⟨rfl, rfl⟩ := Prod.mk.inj (Option.some.inj parts)
  obtain ⟨meters, fewer, filed, filedToo, agree⟩ := swept.agree
  rw [currentMeters_of_some filedToo] at served
  rw [bucketAt?, currentMeters_of_some filed] at found
  have both := agree dimension
  rw [served] at both
  cases servedToo : meters.find? dimension with
  | none =>
      rw [servedToo] at found
      cases found
  | some whole =>
      rw [servedToo] at both found
      rcases both with same | _
      refine { swept with agree := ⟨meters, _, filed, rfl, ?_⟩ }
      rw [currentMeters_of_some filedToo]
      exact agree.put_right servedToo (same.evict found full gained)

theorem deleteAll (swept : Swept rate now kept left) {keys : List String}
    (missable : ∀ key ∈ keys, kept.Missable now key) (failures : Nat) :
    Swept rate now kept (Sweep.deleteAll Throttle.evict keys failures left).state := by
  induction keys generalizing left with
  | nil => exact swept
  | cons key rest inductionHypothesis =>
      cases failures with
      | succ fewer => exact swept
      | zero =>
          rw [Sweep.deleteAll]
          cases evicted : left.evict key with
          | error fault => exact swept
          | ok after =>
              exact inductionHypothesis (swept.evict (missable key List.mem_cons_self) evicted)
                fun other member => missable other (List.mem_cons_of_mem _ member)

/-- What a sweep selects is not missed if its time to live earns a token. -/
theorem missable_of_mem_expired (swept : Swept rate now kept left) {ttl : Duration}
    (earns : 0 < rate.tokensFor ttl) {key : String}
    (selected : key ∈ Sweep.expired left.buckets ttl now) : kept.Missable now key := by
  obtain ⟨⟨_, bucket⟩, among, rfl⟩ := List.mem_map.1 selected
  obtain ⟨entry, expired⟩ := List.mem_filter.1 among
  obtain ⟨dimension, meter, value, served, key_eq, found⟩ := mem_buckets entry
  obtain ⟨meters, fewer, filed, filedToo, agree⟩ := swept.agree
  have both := agree dimension
  rw [bucketAt?, served] at found
  rw [currentMeters_of_some filedToo] at served
  rw [served] at both
  cases servedToo : meters.find? dimension with
  | none =>
      rw [servedToo] at both
      cases both
  | some whole =>
      rw [servedToo] at both
      rcases both with same | _
      -- What is left in the swept meter is in the other one too.
      have held := same.buckets value
      rw [show meter.buckets.find? value = some bucket from found] at held
      have servedKept : kept.currentMeters.find? dimension = some whole := by
        rw [currentMeters_of_some filed, servedToo]
      have agrees := swept.sound dimension whole servedKept
      have named : isDimensionName dimension = true := by
        refine swept.named dimension (mem_dimensions_iff.2 ?_)
        rw [capacityAt?, servedKept]
        exact Option.some_ne_none _
      have fits := agrees.fits value bucket held.eq_some
      rw [← swept.rate_kept, ← agrees.rate_eq, ← fits.rate_eq] at earns
      refine ⟨dimension, value, bucket, key_eq, named, ?_,
        Bucket.forgettable_of_isExpired earns expired⟩
      rw [bucketAt?, servedKept]
      exact held.eq_some

/-- A sweep with a time to live that earns a token takes nothing away that anybody would miss. -/
theorem sweep (swept : Swept rate now kept left) {ttl : Duration}
    (earns : 0 < rate.tokensFor ttl) (failures : Nat) :
    Swept rate now kept (left.sweep ttl now failures).state :=
  swept.deleteAll (fun _ selected => swept.missable_of_mem_expired earns selected) failures

/-- Neither do many sweeps of a housekeeper, whose time to live stays. -/
theorem sweepTimes (swept : Swept rate now kept left) (count : Nat) (keeper : Housekeeper)
    (earns : 0 < rate.tokensFor keeper.ttl) :
    Swept rate now kept (Housekeeper.sweepTimes now count keeper left).2.2 ∧
      (Housekeeper.sweepTimes now count keeper left).2.1.ttl = keeper.ttl := by
  induction count generalizing keeper left with
  | zero => exact ⟨swept, rfl⟩
  | succ fewer inductionHypothesis =>
      exact inductionHypothesis (swept.sweep earns keeper.failures)
        (keeper.sweepOnce left now).2.1 earns

end Swept

end Throttle

end LoginThrottle
