import LoginThrottle.Proofs.Station.Invariant
import LoginThrottle.Proofs.Text.ByteOrder
import LoginThrottle.Proofs.Throttle.Stops

/-!
# Checks that charge up to the first bucket that cannot pay

A check passes if all buckets that its identity names can pay.  It charges them in the order of
their dimensions up to the first one that cannot, and what has been charged stays charged.

## Main Definitions

* `Throttle.refilledAt`: the bucket of a value, or a new one if it has none, refilled

## Main Statements

* `Throttle.charging_walk`: the answer of a walk that charges, and the pairs that it comes by
* `Throttle.bucketAt?_satisfy_eq`: what a check does to a bucket
* `Throttle.satisfy_cases`: the two ways that a check can go
* `Throttle.satisfy_charges_prefix`: the answer of a check, and every bucket after it
-/

namespace LoginThrottle

namespace Throttle

/-! ### Walks that charge -/

/-- A walk that charges passes if all buckets can pay.  It comes by those that can, up to the
first that cannot. -/
theorem charging_walk {now : Instant} (pays : String × String → Bool)
    {pairs : List (String × String)}
    (sorted : pairs.Pairwise fun first second => first.1 < second.1) {meters : Keyed Meter}
    (told : ∀ pair ∈ pairs, ∃ meter, meters.find? pair.1 = some meter ∧
      ((meter.bucketOf pair.2 now).refill now).canPay meter.cost = pays pair) :
    (walk (.charging now) (fun _ => true) () pairs meters).1 = .ok (pairs.all pays) ∧
      stops (.charging now) () pairs meters =
        pairs.takeWhile pays ++ (pairs.dropWhile pays).take 1 := by
  induction pairs generalizing meters with
  | nil => exact ⟨rfl, rfl⟩
  | cons pair rest inductionHypothesis =>
      obtain ⟨meter, served, payable⟩ := told pair List.mem_cons_self
      obtain ⟨dimension, value⟩ := pair
      have taken : ((meter.bucketOf value now).take meter.cost now).1 = pays (dimension, value) := by
        rw [Bucket.take_eq]
        exact payable
      have used : Usage.charging now () meter.bare (meter.buckets.find? value) =
          (if pays (dimension, value) then .on () else .ended false,
            some ((meter.bucketOf value now).take meter.cost now).2) := by
        rw [← taken]
        rfl
      rw [walk, stops, served]
      simp only [used]
      cases paid : pays (dimension, value) with
      | false => simp [paid]
      | true =>
          -- The meters of the dimensions behind this one are untouched.
          have toldLater : ∀ pair ∈ rest, ∃ other,
              (meters.put dimension (meter.withBucket value
                (some ((meter.bucketOf value now).take meter.cost now).2))).find? pair.1 =
                some other ∧
              ((other.bucketOf pair.2 now).refill now).canPay other.cost = pays pair := by
            rintro ⟨name, text⟩ member
            have different : name ≠ dimension := (Identity.ne_of_mem_sorted sorted member).symm
            rw [Keyed.find?_put_of_ne _ _ different]
            exact told _ (List.mem_cons_of_mem _ member)
          obtain ⟨answer, visited⟩ :=
            inductionHypothesis (List.pairwise_cons.1 sorted).2 toldLater
          simp [paid, answer, visited]

/-! ### Checks -/

/-- The bucket of a value, or a new one if it has none, refilled. -/
def refilledAt (throttle : Throttle) (now : Instant) (pair : String × String) : Bucket :=
  ((throttle.bucketAt? pair.1 pair.2).getD
    (.fresh ((throttle.capacityAt? pair.1).getD 0) throttle.rate now)).refill now

/-- The bucket that a sound meter uses for a value. -/
theorem Sound.refill_getD {throttle : Throttle} (sound : throttle.Sound) {meter : Meter}
    {pair : String × String} (found : throttle.currentMeters.find? pair.1 = some meter)
    (now : Instant) :
    ((throttle.bucketAt? pair.1 pair.2).getD (.fresh meter.capacity meter.rate now)).refill now =
      throttle.refilledAt now pair := by
  rw [refilledAt, capacityAt?, found, (sound pair.1 meter found).rate_eq]
  rfl

/-- A bucket can pay a cost of at least one if it has that many tokens. -/
theorem canPay_eq (throttle : Throttle) (bucket : Bucket) :
    bucket.canPay (max throttle.cost 1) = decide (max throttle.cost 1 ≤ bucket.tokens) := by
  rw [Bucket.canPay, decide_eq_decide]
  omega

/-- What a check does to a bucket that it comes by. -/
theorem Sound.charging_eq {throttle : Throttle} (sound : throttle.Sound) {meter : Meter}
    {pair : String × String} (found : throttle.currentMeters.find? pair.1 = some meter)
    (now : Instant) (carried : Unit) :
    Usage.charging now carried meter.bare (throttle.bucketAt? pair.1 pair.2) =
      if max throttle.cost 1 ≤ (throttle.refilledAt now pair).tokens then
        (.on (), some ((throttle.refilledAt now pair).withdraw (max throttle.cost 1)))
      else (.ended false, some (throttle.refilledAt now pair)) := by
  have charged : Usage.charging now carried meter.bare (throttle.bucketAt? pair.1 pair.2) =
      let taken := ((throttle.bucketAt? pair.1 pair.2).getD
        (.fresh meter.capacity meter.rate now)).take meter.cost now
      (if taken.1 then .on () else .ended false, some taken.2) := rfl
  rw [charged, Bucket.take_eq, sound.refill_getD found, (sound pair.1 meter found).cost_eq,
    canPay_eq]
  by_cases able : max throttle.cost 1 ≤ (throttle.refilledAt now pair).tokens <;> simp [able]

/-- What a check answers and which buckets it comes by, if all dimensions are served. -/
theorem satisfy_of_served {throttle : Throttle} (sound : throttle.Sound)
    (made : throttle.meters ≠ none) {identity : Identity} (names : identity.isEmpty = false)
    (served : ∀ dimension ∈ identity.dimensions, dimension ∈ throttle.dimensions)
    (now : Instant) :
    let pays := fun pair => decide (max throttle.cost 1 ≤ (throttle.refilledAt now pair).tokens)
    (throttle.satisfy identity now).1 = .ok (identity.pairs.all pays) ∧
      throttle.chargedBy identity now =
        identity.pairs.takeWhile pays ++ (identity.pairs.dropWhile pays).take 1 := by
  intro pays
  obtain ⟨meters, filed⟩ := Option.ne_none_iff_exists'.1 made
  have current := currentMeters_of_some filed
  have told : ∀ pair ∈ identity.pairs, ∃ meter, meters.find? pair.1 = some meter ∧
      ((meter.bucketOf pair.2 now).refill now).canPay meter.cost = pays pair := by
    intro pair member
    obtain ⟨meter, found⟩ := exists_meter_of_mem (served pair.1 (List.mem_map_of_mem member))
    refine ⟨meter, current ▸ found, ?_⟩
    have held : throttle.bucketAt? pair.1 pair.2 = meter.buckets.find? pair.2 := by
      rw [bucketAt?, found, Option.bind_some]
    rw [Meter.bucketOf, ← held, sound.refill_getD found, (sound pair.1 meter found).cost_eq,
      canPay_eq]
  obtain ⟨answer, visited⟩ := charging_walk pays identity.sorted told
  constructor
  · simp [satisfy_eq_visit, visit, names, ensureMeters, filed, withMeters, answer]
  · simp [chargedBy, stopsOf, ensureMeters, filed, visited]

/-- The pairs that a check comes by are named. -/
theorem mem_of_mem_chargedBy {throttle : Throttle} {identity : Identity} {now : Instant}
    {pair : String × String} (stop : pair ∈ throttle.chargedBy identity now) :
    pair ∈ identity.pairs := by
  unfold chargedBy stopsOf at stop
  split at stop
  · cases stop
  · exact mem_of_mem_stops stop

/-- A check refills the buckets that it comes by, and it charges them if they can pay.  It leaves
others as they are. -/
theorem bucketAt?_satisfy_eq {throttle : Throttle} (sound : throttle.Sound)
    (made : throttle.meters ≠ none) (identity : Identity) (now : Instant)
    (pair : String × String) :
    (throttle.satisfy identity now).2.bucketAt? pair.1 pair.2 =
      if pair ∈ throttle.chargedBy identity now then
        if max throttle.cost 1 ≤ (throttle.refilledAt now pair).tokens then
          some ((throttle.refilledAt now pair).withdraw (max throttle.cost 1))
        else some (throttle.refilledAt now pair)
      else throttle.bucketAt? pair.1 pair.2 := by
  obtain ⟨passed, stopped⟩ := @bucketAt?_visit _ _ (.charging now) (fun _ => true) () throttle
    identity pair
  rw [satisfy_eq_visit]
  split
  · next stop =>
      obtain ⟨carried, meter, found, changed, -⟩ := stopped stop
      obtain ⟨meters, filed⟩ := Option.ne_none_iff_exists'.1 made
      have kept : (throttle.ensureMeters identity).2 = throttle := by rw [ensureMeters, filed]
      rw [kept] at found
      rw [changed, sound.charging_eq found]
      split <;> rfl
  · next apart => exact passed apart

/-- What comes last in an ordered list of pairs is not among those in front. -/
theorem not_mem_front_of_sorted {before behind : List (String × String)}
    {first pair : String × String}
    (sorted : (before ++ first :: behind).Pairwise fun first second => first.1 < second.1)
    (member : pair ∈ behind) : pair ∉ before ++ [first] := by
  have distinct := (Identity.nodup_of_sorted sorted).of_map
  obtain ⟨-, behindFirst, apart⟩ := List.nodup_append.1 distinct
  intro again
  rcases List.mem_append.1 again with early | here
  · exact apart pair early pair (List.mem_cons_of_mem first member) rfl
  · obtain rfl := List.mem_singleton.1 here
    exact (List.nodup_cons.1 behindFirst).1 member

/-- All pairs of a list can pay, or one of them is the first that cannot. -/
theorem all_pay_or_first_denial (pays : String × String → Bool) (pairs : List (String × String)) :
    let stops := pairs.takeWhile pays ++ (pairs.dropWhile pays).take 1
    (pairs.all pays = true ∧ stops = pairs) ∨
      pairs.all pays = false ∧ ∃ before first behind, pairs = before ++ first :: behind ∧
        (∀ pair ∈ before, pays pair = true) ∧ pays first = false ∧ stops = before ++ [first] := by
  induction pairs with
  | nil => exact .inl ⟨rfl, rfl⟩
  | cons pair rest inductionHypothesis =>
      cases paid : pays pair with
      | false =>
          refine .inr ⟨by simp [paid], [], pair, rest, rfl, ?_, paid, by simp [paid]⟩
          exact fun _ none => absurd none List.not_mem_nil
      | true =>
          rcases inductionHypothesis with
            ⟨all, stops⟩ | ⟨some, before, first, behind, split, able, unable, stops⟩
          · exact .inl ⟨by simp [paid, all], by simp [paid, stops]⟩
          · refine .inr ⟨by simp [paid, some], pair :: before, first, behind,
              congrArg (pair :: ·) split, List.forall_mem_cons.2 ⟨paid, able⟩, unable, ?_⟩
            simp [paid, stops]

/-- How a check goes along the pairs of an identity whose dimensions are all served: it passes
and charges all of them, or it is denied by one of them and charges those in front of it. -/
theorem satisfy_cases {throttle : Throttle} (sound : throttle.Sound)
    (made : throttle.meters ≠ none) {identity : Identity} (names : identity.isEmpty = false)
    (served : ∀ dimension ∈ identity.dimensions, dimension ∈ throttle.dimensions)
    (now : Instant) :
    let cost := max throttle.cost 1
    let refilled := throttle.refilledAt now
    let after := throttle.satisfy identity now
    (after.1 = .ok true ∧ ∀ pair ∈ identity.pairs, cost ≤ (refilled pair).tokens ∧
        after.2.bucketAt? pair.1 pair.2 = some ((refilled pair).withdraw cost)) ∨
      after.1 = .ok false ∧ ∃ before first behind, identity.pairs = before ++ first :: behind ∧
        (∀ pair ∈ before, cost ≤ (refilled pair).tokens ∧
          after.2.bucketAt? pair.1 pair.2 = some ((refilled pair).withdraw cost)) ∧
        (refilled first).tokens < cost ∧
        after.2.bucketAt? first.1 first.2 = some (refilled first) ∧
        ∀ pair ∈ behind, after.2.bucketAt? pair.1 pair.2 = throttle.bucketAt? pair.1 pair.2 := by
  intro cost refilled after
  let pays := fun pair => decide (cost ≤ (refilled pair).tokens)
  obtain ⟨answer, visited⟩ := satisfy_of_served sound made names served now
  have effect := bucketAt?_satisfy_eq sound made identity now
  have charged {pair : String × String} (stop : pair ∈ throttle.chargedBy identity now)
      (able : pays pair = true) : cost ≤ (refilled pair).tokens ∧
        after.2.bucketAt? pair.1 pair.2 = some ((refilled pair).withdraw cost) := by
    have enough : cost ≤ (refilled pair).tokens := of_decide_eq_true able
    exact ⟨enough, (effect pair).trans ((if_pos stop).trans (if_pos enough))⟩
  rcases all_pay_or_first_denial pays identity.pairs with
    ⟨all, stops⟩ | ⟨some, before, first, behind, split, able, unable, stops⟩
  · refine .inl ⟨answer.trans (congrArg _ all), fun pair member => ?_⟩
    exact charged (visited.trans stops ▸ member) (List.all_eq_true.1 all pair member)
  · have comesBy : throttle.chargedBy identity now = before ++ [first] := visited.trans stops
    have short : ¬ cost ≤ (refilled first).tokens := of_decide_eq_false unable
    refine .inr ⟨answer.trans (congrArg _ some), before, first, behind, split, ?_,
      Nat.lt_of_not_le short, ?_, ?_⟩
    · intro pair member
      exact charged (comesBy ▸ List.mem_append_left _ member) (able pair member)
    · have stop : first ∈ throttle.chargedBy identity now :=
        comesBy ▸ List.mem_append_right _ List.mem_cons_self
      exact (effect first).trans ((if_pos stop).trans (if_neg short))
    · -- A dimension is named once, so that nothing behind the denial was come by before.
      intro pair member
      have sorted := identity.sorted
      rw [split] at sorted
      refine (effect pair).trans (if_neg ?_)
      rw [comesBy]
      exact not_mem_front_of_sorted sorted member

/-- A check of an identity whose dimensions are all served passes if every bucket that it names,
a new one where there is none, has the cost once it is refilled.  Then each of them is charged
once.  Otherwise those in front of the first that cannot pay are charged, that one is refilled,
and those behind it stay as they are, as do all that are not named.  The dimensions are in the
order of their bytes, in whichever order they were named. -/
theorem satisfy_charges_prefix {throttle : Throttle} (reachable : throttle.Reachable)
    (made : throttle.meters ≠ none) {identity : Identity} (names : identity.isEmpty = false)
    (served : ∀ dimension ∈ identity.dimensions, dimension ∈ throttle.dimensions)
    (now : Instant) :
    let cost := max throttle.cost 1
    let refilled := throttle.refilledAt now
    let bucketAfter := fun pair : String × String =>
      (throttle.satisfy identity now).2.bucketAt? pair.1 pair.2
    (∃ passed, (throttle.satisfy identity now).1 = .ok passed ∧
      (passed = true ↔ ∀ pair ∈ identity.pairs, cost ≤ (refilled pair).tokens) ∧
      (passed = true →
        ∀ pair ∈ identity.pairs, bucketAfter pair = some ((refilled pair).withdraw cost)) ∧
      (passed = false → ∃ before first behind, identity.pairs = before ++ first :: behind ∧
        (∀ pair ∈ before, cost ≤ (refilled pair).tokens ∧
          bucketAfter pair = some ((refilled pair).withdraw cost)) ∧
        (refilled first).tokens < cost ∧ bucketAfter first = some (refilled first) ∧
        ∀ pair ∈ behind, bucketAfter pair = throttle.bucketAt? pair.1 pair.2)) ∧
    (∀ pair, pair ∉ identity.pairs → bucketAfter pair = throttle.bucketAt? pair.1 pair.2) ∧
    (throttle.satisfy identity now).2.bare = throttle.bare ∧
    (identity.pairs.Pairwise fun first second =>
      first.1.toUTF8.data.toList < second.1.toUTF8.data.toList) ∧
    ∀ named, named.Perm identity.pairs → Identity.ofPairs named = identity := by
  have sound := reachable.sound
  intro cost refilled bucketAfter
  refine ⟨?_, ?_, ?_, ?_, ?_⟩
  · rcases satisfy_cases sound made names served now with
      ⟨answer, charged⟩ | ⟨answer, before, first, behind, split, charged, short, denied, untouched⟩
    · refine ⟨true, answer, ?_, ?_, fun denied => absurd denied Bool.noConfusion⟩
      · exact iff_of_true rfl fun pair member => (charged pair member).1
      · intro _ pair member
        exact (charged pair member).2
    · refine ⟨false, answer, ?_, fun passed => absurd passed Bool.false_ne_true, fun _ =>
        ⟨before, first, behind, split, charged, short, denied, untouched⟩⟩
      refine iff_of_false Bool.false_ne_true fun all => ?_
      have member : first ∈ identity.pairs := by
        rw [split]
        exact List.mem_append_right before List.mem_cons_self
      exact absurd (all first member) (Nat.not_le_of_lt short)
  · intro pair absent
    rw [show bucketAfter pair = _ from bucketAt?_satisfy_eq sound made identity now pair]
    exact if_neg fun stop => absent (mem_of_mem_chargedBy stop)
  · rw [satisfy_eq_visit]
    exact bare_visit made () identity
  · exact identity.sorted.imp fun {_ _} less => (text_lt_iff_bytes_lt _ _).1 less
  · exact fun named same => Identity.ofPairs_eq_of_perm same

/-- A station at which one client has used up the only attempt with its password. -/
def usedUp : Station :=
  Station.run (.new ⟨.new .never, .new (.reliable [.plain "login" 3, .plain "password" 1]) ⟨1, ⟨5⟩⟩⟩)
    [.check .throttle (.ofPairs [("password", "pw"), ("login", "root")])]

/-- The second attempt is denied by the password, and nothing but buckets has changed. -/
theorem usedUp_charges :
    let throttle := usedUp.guard.throttle
    let attempt := Identity.ofPairs [("password", "pw"), ("login", "root")]
    throttle.Reachable ∧ throttle.meters ≠ none ∧ attempt.isEmpty = false ∧
      (∀ dimension ∈ attempt.dimensions, dimension ∈ throttle.dimensions) ∧
      (throttle.satisfy attempt .origin).1 = .ok false ∧
      (throttle.satisfy attempt .origin).2.bare = throttle.bare := by
  intro throttle attempt
  have reachable : throttle.Reachable := ⟨_, _, rfl, rfl⟩
  have made : throttle.meters ≠ none := by decide +kernel
  have names : attempt.isEmpty = false := by decide +kernel
  have served : ∀ dimension ∈ attempt.dimensions, dimension ∈ throttle.dimensions := by
    decide +kernel
  have short : ¬ ∀ pair ∈ attempt.pairs,
      max throttle.cost 1 ≤ (throttle.refilledAt .origin pair).tokens := by
    decide +kernel
  obtain ⟨⟨passed, answer, passes, -⟩, -, kept, -⟩ :=
    satisfy_charges_prefix reachable made names served .origin
  refine ⟨reachable, made, names, served, ?_, kept⟩
  rw [answer, Bool.eq_false_iff.2 fun all => short (passes.1 all)]

end Throttle

end LoginThrottle
