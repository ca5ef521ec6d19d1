import LoginThrottle.Proofs.Station.Invariant
import LoginThrottle.Proofs.Throttle.Remaining
import LoginThrottle.Proofs.Throttle.Unswept
import LoginThrottle.Proofs.Throttle.Walk
import Mathlib.Order.Bounds.Basic

/-!
# A fresh start

A reset puts a new bucket in the place of each bucket that an identity names.  Nothing else is
different afterwards, so whoever is reset may make as many attempts as somebody who was never
seen.

## Main Definitions

* `Meter.renew`, `Throttle.renew`: new buckets for the values that have one
* `Throttle.Renewed`: what a fresh start changes, and what it leaves alone
* `Throttle.fullShare`: the attempts that a full bucket of a dimension pays for

## Main Statements

* `Throttle.reset_eq_renew`: a reset of dimensions that are served is a fresh start
* `Throttle.renewed_renew`: the effect of a fresh start on all buckets
* `Throttle.renew_renew`: a second one at the same reading does nothing
* `Throttle.leaves_renew`: what is left to an identity after it
* `Throttle.reset_renews`: a reset makes an identity as good as new

## Design Notes

A reset keeps the capacity and the rate that it finds in a bucket.  These are the ones that a new
bucket would get because the buckets of a meter fit it, in whatever state they are.
-/

namespace LoginThrottle

/-- A bucket that is filled up is the one that its meter would make. -/
theorem Bucket.Fits.reset_eq_fresh {capacity : Nat} {rate : RefillRate} {bucket : Bucket}
    (fits : bucket.Fits capacity rate) (now : Instant) :
    bucket.reset now = .fresh capacity rate now := by
  obtain ⟨rfl, rfl, -⟩ := fits
  rfl

/-! ### Meters -/

namespace Meter

/-- The meter with a new bucket for a value, if the value has one. -/
def renew (meter : Meter) (value : String) (now : Instant) : Meter :=
  { meter with
    buckets := meter.buckets.mapEntries fun name bucket =>
      if name = value then .fresh meter.capacity meter.rate now else bucket }

variable (meter : Meter) (value : String) (now : Instant)

/-- A value that has lost its bucket gets a full one. -/
theorem bucketOf_evict :
    (meter.evict value).bucketOf value now = .fresh meter.capacity meter.rate now := by
  rw [bucketOf, evict, Keyed.find?_erase_self, Option.getD_none]

theorem find?_renew (name : String) :
    (meter.renew value now).buckets.find? name =
      if name = value then
        (meter.buckets.find? value).map fun _ => .fresh meter.capacity meter.rate now
      else
        meter.buckets.find? name := by
  rw [renew, Keyed.find?_mapEntries]
  split
  · next same => rw [same]
  · exact Option.map_id'

/-- Filling up a bucket that fits is a fresh start. -/
theorem reset_eq_renew {meter : Meter}
    (fits : ∀ name bucket, meter.buckets.find? name = some bucket →
      bucket.Fits meter.capacity meter.rate) :
    meter.reset value now = meter.renew value now := by
  cases found : meter.buckets.find? value with
  | some bucket =>
      rw [reset, found, renew, ← Keyed.put_eq_mapEntries found,
        ← (fits value bucket found).reset_eq_fresh now]
      rfl
  | none =>
      have kept : (meter.buckets.mapEntries fun name bucket =>
          if name = value then .fresh meter.capacity meter.rate now else bucket) =
            meter.buckets := by
        refine Eq.trans (Keyed.mapEntries_congr ?_) (Keyed.mapEntries_id _)
        intro name bucket filed
        refine if_neg fun same => ?_
        rw [same, found] at filed
        cases filed
      rw [reset, found, renew, kept]

theorem renew_renew : (meter.renew value now).renew value now = meter.renew value now := by
  simp only [renew, Keyed.mapEntries_mapEntries]
  congr 2
  ext1 name
  split <;> rfl

/-- After a fresh start a value has a full bucket, or gets one when it is next looked at. -/
theorem bucketOf_renew :
    (meter.renew value now).bucketOf value now = .fresh meter.capacity meter.rate now := by
  rw [bucketOf, find?_renew, if_pos rfl]
  cases meter.buckets.find? value <;> rfl

theorem left_renew :
    (meter.renew value now).left value now = meter.capacity / max meter.cost 1 := by
  rw [left_eq, bucketOf_renew, Bucket.refill_fresh]
  rfl

/-- The meter with a new bucket for the value that is named in its dimension, if any. -/
def renewNamed (meter : Meter) (named : Option String) (now : Instant) : Meter :=
  match named with
  | some value => meter.renew value now
  | none => meter

end Meter

namespace Throttle

/-! ### Along the meters -/

/-- Resets come by all pairs whose dimensions are served, and no dimension comes twice. -/
theorem resetAll_eq_renew {pairs : List (String × String)} {meters : Keyed Meter}
    (sorted : pairs.Pairwise fun first second => first.1 < second.1)
    (served : ∀ pair ∈ pairs, ∃ meter, meters.find? pair.1 = some meter ∧
      ∀ value bucket, meter.buckets.find? value = some bucket →
        bucket.Fits meter.capacity meter.rate) (now : Instant) :
    resetAll now pairs meters = (.ok (), meters.mapEntries fun dimension meter =>
      meter.renewNamed ((pairs.find? fun pair => pair.1 == dimension).map Prod.snd) now) := by
  induction pairs generalizing meters with
  | nil => exact congrArg (Prod.mk _) (Keyed.mapEntries_id meters).symm
  | cons pair rest inductionHypothesis =>
      obtain ⟨dimension, value⟩ := pair
      obtain ⟨meter, found, fits⟩ := served _ List.mem_cons_self
      simp only at found
      have servedLater : ∀ pair ∈ rest, ∃ other,
          (meters.put dimension (meter.reset value now)).find? pair.1 = some other ∧
            ∀ value bucket, other.buckets.find? value = some bucket →
              bucket.Fits other.capacity other.rate := by
        intro pair member
        have different : pair.1 ≠ dimension := (Identity.ne_of_mem_sorted sorted member).symm
        rw [Keyed.find?_put_of_ne _ _ different]
        exact served pair (List.mem_cons_of_mem _ member)
      rw [resetAll, found]
      refine (inductionHypothesis (List.pairwise_cons.1 sorted).2 servedLater).trans ?_
      rw [Keyed.put_eq_mapEntries found, Keyed.mapEntries_mapEntries]
      refine congrArg (Prod.mk _) (Keyed.mapEntries_congr fun name other filed => ?_)
      by_cases here : name = dimension
      · subst here
        obtain rfl : meter = other := Option.some.inj (found.symm.trans filed)
        have unnamed : (rest.find? fun pair => pair.1 == name) = none := by
          refine List.find?_eq_none.2 fun pair member same => ?_
          exact Identity.ne_of_mem_sorted sorted member (eq_of_beq same).symm
        have first : ((name, value) :: rest).find? (fun pair => pair.1 == name) =
            some (name, value) := List.find?_cons_of_pos (beq_self_eq_true name)
        rw [if_pos rfl, unnamed, first, Meter.reset_eq_renew value now fits]
        rfl
      · have later : ((dimension, value) :: rest).find? (fun pair => pair.1 == name) =
            rest.find? fun pair => pair.1 == name :=
          List.find?_cons_of_neg fun same => here (eq_of_beq same).symm
        rw [if_neg here, later]

/-! ### Throttles -/

/-- The throttle with new buckets for the values that an identity names, as far as they have
one. -/
def renew (throttle : Throttle) (identity : Identity) (now : Instant) : Throttle :=
  { throttle with
    meters := throttle.meters.map fun meters => meters.mapEntries fun dimension meter =>
      meter.renewNamed (identity.get? dimension) now }

variable {throttle : Throttle} {identity : Identity} {now : Instant}

/-- A reset of dimensions that are all served is a fresh start. -/
theorem reset_eq_renew (sound : throttle.Sound) (made : throttle.meters ≠ none)
    (names : identity.isEmpty = false)
    (served : ∀ dimension ∈ identity.dimensions, dimension ∈ throttle.dimensions)
    (now : Instant) :
    throttle.reset identity now = (.ok (), throttle.renew identity now) := by
  obtain ⟨meters, filed⟩ := Option.ne_none_iff_exists'.1 made
  have current := currentMeters_of_some filed
  have all : resetAll now identity.pairs meters = _ :=
    resetAll_eq_renew identity.sorted (fun pair member => by
      obtain ⟨meter, found⟩ := exists_meter_of_mem (served pair.1 (List.mem_map_of_mem member))
      exact ⟨meter, current ▸ found, (sound pair.1 meter found).fits⟩) now
  rw [reset, names, filed]
  simp only [Bool.false_eq_true, if_false, withMeters, all, renew, filed, Option.map_some]
  rfl

theorem find?_renew (throttle : Throttle) (identity : Identity) (now : Instant)
    (dimension : String) :
    (throttle.renew identity now).currentMeters.find? dimension =
      (throttle.currentMeters.find? dimension).map fun meter =>
        meter.renewNamed (identity.get? dimension) now := by
  cases filed : throttle.meters with
  | none => simp [renew, currentMeters, filed]
  | some meters => simp [renew, currentMeters, filed, Keyed.find?_mapEntries]

/-- A fresh start keeps everything but the buckets. -/
theorem bare_renew (throttle : Throttle) (identity : Identity) (now : Instant) :
    (throttle.renew identity now).bare = throttle.bare := by
  have kept (meter : Meter) (named : Option String) :
      (meter.renewNamed named now).bare = meter.bare := by
    cases named <;> rfl
  simp only [bare, renew, Option.map_map, Function.comp_def, Keyed.mapValues,
    Keyed.mapEntries_mapEntries, kept]

/-- The buckets that an identity names are new, and others are as they were. -/
theorem bucketAt?_renew (sound : throttle.Sound) (identity : Identity) (now : Instant)
    (pair : String × String) :
    (throttle.renew identity now).bucketAt? pair.1 pair.2 =
      if pair ∈ identity.pairs then
        (throttle.bucketAt? pair.1 pair.2).map fun bucket =>
          .fresh bucket.capacity bucket.rate now
      else
        throttle.bucketAt? pair.1 pair.2 := by
  obtain ⟨dimension, value⟩ := pair
  simp only [bucketAt?, find?_renew, ← Identity.get?_eq_some_iff]
  cases served : throttle.currentMeters.find? dimension with
  | none => simp
  | some meter =>
      cases named : identity.get? dimension with
      | none => simp [Meter.renewNamed]
      | some other =>
          simp only [Option.map_some, Option.bind_some, Meter.renewNamed, Meter.find?_renew,
            Option.some.injEq, eq_comm (a := other)]
          split
          · next same =>
              subst same
              refine Option.map_congr fun bucket filed => ?_
              obtain ⟨capacity_eq, rate_eq, -⟩ := (sound dimension meter served).fits _ _ filed
              rw [capacity_eq, rate_eq]
          · rfl

/-- What a fresh start for an identity changes, and what it leaves alone. -/
structure Renewed (identity : Identity) (now : Instant) (before after : Throttle) : Prop where
  /-- A bucket that is named is full, as of now, and has the capacity and the rate it had. -/
  filled : ∀ pair ∈ identity.pairs, ∀ bucket, before.bucketAt? pair.1 pair.2 = some bucket →
    after.bucketAt? pair.1 pair.2 = some (.fresh bucket.capacity bucket.rate now)
  /-- This is the bucket that its meter would make now for a value that it had forgotten. -/
  created : ∀ pair ∈ identity.pairs, before.bucketAt? pair.1 pair.2 ≠ none →
    ∀ meter, before.currentMeters.find? pair.1 = some meter →
      after.bucketAt? pair.1 pair.2 = some ((meter.evict pair.2).bucketOf pair.2 now)
  /-- No bucket is made for a value that has none. -/
  absent : ∀ pair ∈ identity.pairs, before.bucketAt? pair.1 pair.2 = none →
    after.bucketAt? pair.1 pair.2 = none
  untouched : ∀ pair, pair ∉ identity.pairs →
    after.bucketAt? pair.1 pair.2 = before.bucketAt? pair.1 pair.2
  bare_eq : after.bare = before.bare

theorem renewed_renew (sound : throttle.Sound) (identity : Identity) (now : Instant) :
    throttle.Renewed identity now (throttle.renew identity now) where
  filled := by
    intro pair member bucket held
    rw [bucketAt?_renew sound, if_pos member, held, Option.map_some]
  created := by
    intro pair member live meter served
    obtain ⟨bucket, held⟩ := Option.ne_none_iff_exists'.1 live
    obtain ⟨capacity_eq, rate_eq, -⟩ := sound.fits_bucketAt? served pair.2 bucket held
    rw [bucketAt?_renew sound, if_pos member, held, Option.map_some, Meter.bucketOf_evict,
      capacity_eq, rate_eq]
  absent := by
    intro pair member missing
    rw [bucketAt?_renew sound, if_pos member, missing, Option.map_none]
  untouched := by
    intro pair apart
    rw [bucketAt?_renew sound, if_neg apart]
  bare_eq := throttle.bare_renew identity now

/-- A second fresh start at the same reading changes nothing. -/
theorem renew_renew (throttle : Throttle) (identity : Identity) (now : Instant) :
    (throttle.renew identity now).renew identity now = throttle.renew identity now := by
  have again (meter : Meter) (named : Option String) :
      (meter.renewNamed named now).renewNamed named now = meter.renewNamed named now := by
    cases named with
    | some value => exact meter.renew_renew value now
    | none => rfl
  simp only [renew, Option.map_map, Function.comp_def, Keyed.mapEntries_mapEntries, again]

/-! ### What is left after a fresh start -/

/-- The least of some bounded numbers is found by going through them. -/
theorem isLeast_foldl_min {lefts : List Nat} (nonempty : lefts ≠ []) {bound : Nat}
    (bounded : ∀ left ∈ lefts, left ≤ bound) :
    IsLeast {left | left ∈ lefts} (lefts.foldl min bound) := by
  obtain ⟨least, found⟩ := Option.ne_none_iff_exists'.1 (List.min?_eq_none_iff.not.2 nonempty)
  obtain ⟨member, below⟩ := List.min?_eq_some_iff.1 found
  rw [List.foldl_min, found, Option.getD_some, Nat.min_eq_right (bounded least member)]
  exact ⟨member, below⟩

/-- The attempts that a full bucket of a dimension pays for. -/
def fullShare (throttle : Throttle) (dimension : String) : Nat :=
  (throttle.capacityAt? dimension).getD 0 / max throttle.cost 1

/-- No capacity exceeds what the limits allow for. -/
theorem Sound.capacityAt?_le (sound : throttle.Sound) {bound : Nat}
    (fits : ∀ limit ∈ throttle.store.limits, limit.capacity ≤ bound) (dimension : String) :
    (throttle.capacityAt? dimension).getD 0 ≤ bound := by
  rw [capacityAt?]
  cases served : throttle.currentMeters.find? dimension with
  | none => exact Nat.zero_le bound
  | some meter =>
      obtain ⟨limit, stored, -, same⟩ :=
        Limit.exists_of_capacityOf? (sound dimension meter served).capacity_eq
      rw [Option.map_some, Option.getD_some, ← same]
      exact fits limit stored

/-- After a fresh start a full share is left in every dimension. -/
theorem leaves_renew (sound : throttle.Sound) (made : throttle.meters ≠ none)
    (served : ∀ dimension ∈ identity.dimensions, dimension ∈ throttle.dimensions)
    (now : Instant) :
    (throttle.renew identity now).Leaves identity now
      (identity.dimensions.map throttle.fullShare) := by
  obtain ⟨meters, filed⟩ := Option.ne_none_iff_exists'.1 made
  have filedAfter : (throttle.renew identity now).meters = some (meters.mapEntries
      fun dimension meter => meter.renewNamed (identity.get? dimension) now) := by
    rw [renew, filed, Option.map_some]
  refine ⟨_, _, by rw [ensureMeters, filedAfter], ?_⟩
  rw [Identity.dimensions, List.map_map, List.forall₂_map_right_iff, List.forall₂_same]
  intro pair member
  obtain ⟨meter, found⟩ := exists_meter_of_mem (served pair.1 (List.mem_map_of_mem member))
  have cost_eq := (sound pair.1 meter found).cost_eq
  have named : identity.get? pair.1 = some pair.2 := Identity.get?_eq_some_iff.2 member
  refine ⟨meter.renew pair.2 now, ?_, ?_, ?_⟩
  · rw [Keyed.find?_mapEntries, ← currentMeters_of_some filed, found, named]
    rfl
  · change 0 < meter.cost
    omega
  · rw [Meter.left_renew, Function.comp_apply, fullShare, capacityAt?, found, cost_eq]
    change meter.capacity / _ = meter.capacity / _
    congr 1
    omega

/-- A reset of an identity whose dimensions are all served succeeds and makes the identity as
good as new: its buckets are new, no others are made or changed, and a second reset at the same
reading does nothing.  A question at that reading is then answered with the least number of
attempts that a full bucket of a named dimension pays for. -/
theorem reset_renews (reachable : throttle.Reachable) (made : throttle.meters ≠ none)
    (names : identity.isEmpty = false)
    (served : ∀ dimension ∈ identity.dimensions, dimension ∈ throttle.dimensions)
    (fits : ∀ limit ∈ throttle.store.limits, limit.capacity ≤ largestCount) (now : Instant) :
    ∃ after, throttle.reset identity now = (.ok (), after) ∧
      throttle.Renewed identity now after ∧
      after.reset identity now = (.ok (), after) ∧
      ∃ answer, (after.allowed identity now).1 = .ok answer ∧
        IsLeast {share | ∃ dimension ∈ identity.dimensions, ∃ capacity,
          throttle.capacityAt? dimension = some capacity ∧
            share = capacity / max throttle.cost 1} answer := by
  have sound := reachable.sound
  have renewed := renewed_renew sound identity now
  have bare_eq := renewed.bare_eq
  have answered := reset_eq_renew sound made names served now
  have soundAfter : (throttle.renew identity now).Sound := by
    have moves := throttle.moves_reset identity now
    rw [answered] at moves
    exact moves.sound sound
  have leaves := leaves_renew sound made served now
  refine ⟨throttle.renew identity now, answered, renewed, ?_, _, (leaves.allowed names).1, ?_⟩
  · have servedAfter : ∀ dimension ∈ identity.dimensions,
        dimension ∈ (throttle.renew identity now).dimensions := by
      rw [dimensions_of_bare_eq bare_eq]
      exact served
    rw [reset_eq_renew soundAfter (made_of_bare_eq bare_eq made) names servedAfter now, renew_renew]
  · have shares : {share | ∃ dimension ∈ identity.dimensions, ∃ capacity,
        throttle.capacityAt? dimension = some capacity ∧
          share = capacity / max throttle.cost 1} =
          {share | share ∈ identity.dimensions.map throttle.fullShare} := by
      ext share
      simp only [Set.mem_ofPred_eq, List.mem_map]
      refine exists_congr fun dimension => and_congr_right fun member => ?_
      obtain ⟨capacity, limited⟩ :=
        Option.ne_none_iff_exists'.1 (mem_dimensions_iff.1 (served dimension member))
      simp [fullShare, limited, eq_comm]
    rw [shares]
    refine isLeast_foldl_min (leaves.ne_nil names) ?_
    intro share member
    obtain ⟨dimension, -, rfl⟩ := List.mem_map.1 member
    exact Nat.le_trans (Nat.div_le_self _ _) (sound.capacityAt?_le fits dimension)

/-- A station at which an address cannot pay any more, a login has spent some of its tokens and a
password has been forgotten, while another login goes on. -/
def midway : Station :=
  Station.run (.new ⟨.new .never, .new (.reliable
      [.plain "ip" 4, .plain "login" 7, .plain "password" 9]) ⟨1, ⟨5⟩⟩⟩)
    [.setCost 2, .check .throttle (.ofAttempt "10.0.0.8" "root" "pw"), .advance ⟨5⟩,
      .check .throttle (.ofClient "10.0.0.8" "guest"),
      .check .throttle (.ofClient "10.0.0.8" "root"), .evict "password_pw"]

/-- Whoever is reset midway has two attempts, as many as a full bucket of the address pays for. -/
theorem midway_renews :
    let throttle := midway.guard.throttle
    let attempt := Identity.ofAttempt "10.0.0.8" "root" "pw"
    throttle.Reachable ∧ throttle.meters ≠ none ∧ attempt.isEmpty = false ∧
      (∀ dimension ∈ attempt.dimensions, dimension ∈ throttle.dimensions) ∧
      (∀ limit ∈ throttle.store.limits, limit.capacity ≤ largestCount) ∧
      (throttle.bucketAt? "ip" "10.0.0.8").map Bucket.tokens = some 1 ∧
      throttle.bucketAt? "password" "pw" = none ∧
      ∃ after, throttle.reset attempt midway.now = (.ok (), after) ∧
        after.bucketAt? "ip" "10.0.0.8" = some ⟨4, ⟨1, ⟨5⟩⟩, 4, ⟨5⟩⟩ ∧
        after.bucketAt? "password" "pw" = none ∧
        after.bucketAt? "login" "guest" = throttle.bucketAt? "login" "guest" ∧
        (after.allowed attempt midway.now).1 = .ok 2 := by
  intro throttle attempt
  have reachable : throttle.Reachable := ⟨_, _, rfl, rfl⟩
  have made : throttle.meters ≠ none := by decide +kernel
  have names : attempt.isEmpty = false := by decide +kernel
  have served : ∀ dimension ∈ attempt.dimensions, dimension ∈ throttle.dimensions := by
    decide +kernel
  have fits : ∀ limit ∈ throttle.store.limits, limit.capacity ≤ largestCount := by decide +kernel
  have held : throttle.bucketAt? "ip" "10.0.0.8" = some ⟨4, ⟨1, ⟨5⟩⟩, 1, ⟨5⟩⟩ := by decide +kernel
  have forgotten : throttle.bucketAt? "password" "pw" = none := by decide +kernel
  obtain ⟨after, answered, renewed, -, -⟩ :=
    reset_renews reachable made names served fits midway.now
  refine ⟨reachable, made, names, served, fits, held ▸ rfl, forgotten, after, answered, ?_, ?_, ?_,
    ?_⟩
  · exact renewed.filled ("ip", "10.0.0.8") (by decide +kernel) _ held
  · exact renewed.absent ("password", "pw") (by decide +kernel) forgotten
  · exact renewed.untouched ("login", "guest") (by decide +kernel)
  · obtain rfl : (throttle.reset attempt midway.now).2 = after := congrArg Prod.snd answered
    decide +kernel

end Throttle

end LoginThrottle
