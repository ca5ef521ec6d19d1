import LoginThrottle.Proofs.Throttle.Eviction

/-!
# Walks along the dimensions of an identity

Checks, questions and resets walk along pairs of a dimension and a value.  In each meter that
they come to they see the bucket of the value and what the meter is like without its buckets,
and nothing but that bucket is changed.

## Main Definitions

* `Usage`: what is done to a bucket on a walk, and whether the walk goes on
* `Throttle.walk`: a walk along some pairs
* `Throttle.visit`: a walk along the dimensions of an identity

## Main Statements

* `Throttle.satisfy_eq_visit`, `Throttle.allowed_eq_visit`, `Throttle.reset_eq_visit`: what
  walks the operations are
* `Throttle.bare_visit`: a walk leaves everything but the buckets
* `Throttle.servesNamed_visit`: dimensions with proper names are added only by their like
-/

namespace LoginThrottle

/-- Whether a walk has ended or goes on. -/
inductive Course (Token Answer : Type)
  | ended (answer : Answer)
  | on (token : Token)

/-- What is done to the bucket of a value in a meter that is seen without its buckets, and
whether the walk goes on behind it. -/
def Usage (Token Answer : Type) :=
  Token → Meter → Option Bucket → Course Token Answer × Option Bucket

namespace Usage

/-- The bucket pays for an attempt, and the first one that cannot ends the walk. -/
def charging (now : Instant) : Usage Unit Bool := fun _ meter held =>
  let (paid, bucket) := (held.getD (.fresh meter.capacity meter.rate now)).take meter.cost now
  (if paid then .on () else .ended false, some bucket)

/-- The attempts that the bucket could pay for are counted. -/
def counting (now : Instant) : Usage Nat Nat := fun least meter held =>
  let (attempts, bucket) :=
    (held.getD (.fresh meter.capacity meter.rate now)).affordable meter.cost now
  (.on (min least attempts), some bucket)

/-- The bucket is filled up if there is one. -/
def filling (now : Instant) : Usage Unit Unit := fun _ _ held =>
  (.on (), held.map fun bucket => bucket.reset now)

end Usage

namespace Throttle

variable {Token Answer : Type}

/-- A walk along some pairs. -/
def walk (use : Usage Token Answer) (finish : Token → Answer) :
    Token → List (String × String) → Keyed Meter → Except Fault Answer × Keyed Meter
  | token, [], meters => (.ok (finish token), meters)
  | token, (dimension, value) :: rest, meters =>
    match meters.find? dimension with
    | none => (.error .incorrectIdentity, meters)
    | some meter =>
      let (course, held) := use token meter.bare (meter.buckets.find? value)
      let meters := meters.put dimension (meter.withBucket value held)
      match course with
      | .ended answer => (.ok answer, meters)
      | .on token => walk use finish token rest meters

/-- A walk along the dimensions of an identity, for which the meters are made if need be. -/
def visit (use : Usage Token Answer) (finish : Token → Answer) (token : Token)
    (throttle : Throttle) (identity : Identity) : Except Fault Answer × Throttle :=
  if identity.isEmpty then
    (.error .incorrectIdentity, throttle)
  else
    match throttle.ensureMeters identity with
    | (.error fault, throttle) => (.error fault, throttle)
    | (.ok meters, throttle) =>
      throttle.withMeters (walk use finish token identity.pairs meters)

/-! ### The operations as walks -/

theorem chargeAll_eq_walk (now : Instant) (pairs : List (String × String))
    (meters : Keyed Meter) :
    chargeAll now pairs meters = walk (.charging now) (fun _ => true) () pairs meters := by
  induction pairs generalizing meters with
  | nil => rfl
  | cons pair rest inductionHypothesis =>
      obtain ⟨dimension, value⟩ := pair
      rw [chargeAll, walk]
      cases meters.find? dimension with
      | none => rfl
      | some meter =>
          have used : Usage.charging now () meter.bare (meter.buckets.find? value) =
              (if (meter.take value now).1 then .on () else .ended false,
                some ((meter.bucketOf value now).take meter.cost now).2) := rfl
          simp only [used, inductionHypothesis]
          cases (meter.take value now).1 with
          | false => rfl
          | true => rfl

theorem allowedAll_eq_walk (now : Instant) (least : Nat) (pairs : List (String × String))
    (meters : Keyed Meter) :
    allowedAll now least pairs meters = walk (.counting now) id least pairs meters := by
  induction pairs generalizing least meters with
  | nil => rfl
  | cons pair rest inductionHypothesis =>
      obtain ⟨dimension, value⟩ := pair
      rw [allowedAll, walk]
      cases meters.find? dimension with
      | none => rfl
      | some meter => exact inductionHypothesis _ _

theorem resetAll_eq_walk (now : Instant) (pairs : List (String × String))
    (meters : Keyed Meter) :
    resetAll now pairs meters = walk (.filling now) id () pairs meters := by
  induction pairs generalizing meters with
  | nil => rfl
  | cons pair rest inductionHypothesis =>
      obtain ⟨dimension, value⟩ := pair
      rw [resetAll, walk]
      cases meters.find? dimension with
      | none => rfl
      | some meter =>
          have filled : meter.reset value now =
              meter.withBucket value ((meter.buckets.find? value).map (·.reset now)) := by
            cases found : meter.buckets.find? value with
            | some bucket => rw [Meter.reset, found, Option.map_some, Meter.withBucket]
            | none =>
                -- Nothing is there to be filled up, and nothing is there to be removed.
                rw [Meter.reset, found, Option.map_none, Meter.withBucket, Meter.evict,
                  Keyed.erase_of_find? found]
          simp only [filled, inductionHypothesis]
          rfl

theorem satisfy_eq_visit (throttle : Throttle) (identity : Identity) (now : Instant) :
    throttle.satisfy identity now =
      throttle.visit (.charging now) (fun _ => true) () identity := by
  simp only [satisfy, chargeAll_eq_walk]
  rfl

theorem allowed_eq_visit (throttle : Throttle) (identity : Identity) (now : Instant) :
    throttle.allowed identity now =
      throttle.visit (.counting now) id largestCount identity := by
  simp only [allowed, allowedAll_eq_walk]
  rfl

/-- A reset walks only if the meters are there. -/
theorem reset_eq_visit {throttle : Throttle} (made : throttle.meters ≠ none)
    (identity : Identity) (now : Instant) :
    throttle.reset identity now = throttle.visit (.filling now) id () identity := by
  obtain ⟨meters, filed⟩ := Option.ne_none_iff_exists'.1 made
  simp only [reset, visit, ensureMeters, filed, resetAll_eq_walk]

/-! ### What a walk leaves alone -/

variable {use : Usage Token Answer} {finish : Token → Answer}

theorem bare_put {meters : Keyed Meter} {dimension : String} {meter changed : Meter}
    (served : meters.find? dimension = some meter) (bare_eq : changed.bare = meter.bare) :
    (meters.put dimension changed).mapValues Meter.bare = meters.mapValues Meter.bare := by
  rw [Keyed.mapValues_put]
  refine Keyed.put_of_find? ?_
  rw [Keyed.find?_mapValues, served, bare_eq, Option.map_some]

/-- A walk leaves everything but the buckets. -/
theorem bare_walk (token : Token) (pairs : List (String × String)) (meters : Keyed Meter) :
    (walk use finish token pairs meters).2.mapValues Meter.bare =
      meters.mapValues Meter.bare := by
  induction pairs generalizing token meters with
  | nil => rfl
  | cons pair rest inductionHypothesis =>
      obtain ⟨dimension, value⟩ := pair
      rw [walk]
      cases served : meters.find? dimension with
      | none => rfl
      | some meter =>
          have kept := bare_put served (meter.bare_withBucket value
            (use token meter.bare (meter.buckets.find? value)).2)
          cases course : (use token meter.bare (meter.buckets.find? value)).1 with
          | ended answer => simpa only [course] using kept
          | on next =>
              simp only [course]
              exact (inductionHypothesis next _).trans kept

/-- A visit of a throttle that has its meters leaves everything but the buckets. -/
theorem bare_visit {throttle : Throttle} (made : throttle.meters ≠ none) (token : Token)
    (identity : Identity) :
    (throttle.visit use finish token identity).2.bare = throttle.bare := by
  obtain ⟨meters, filed⟩ := Option.ne_none_iff_exists'.1 made
  simp only [visit, ensureMeters, filed]
  split
  · rfl
  · simp only [withMeters, bare, filed, Option.map_some, bare_walk]

/-- Whoever comes to a throttle that has no meters has them made for its own dimensions at
most. -/
theorem mem_dimensions_ensureMeters {throttle : Throttle} (unmade : throttle.meters = none)
    {identity : Identity} {dimension : String}
    (member : dimension ∈ (throttle.ensureMeters identity).2.dimensions) :
    dimension ∈ identity.dimensions := by
  have nothing {other : Throttle} (none : other.meters = .none) : dimension ∉ other.dimensions := by
    rw [mem_dimensions_iff, capacityAt?, currentMeters_of_none none]
    exact fun limited => limited rfl
  rw [ensureMeters, unmade] at member
  simp only [LimitStore.fetch, LimitStore.answer] at member
  split at member
  · exact absurd member (nothing rfl)
  · next fetched =>
      cases found : Limit.select throttle.store.limits identity.dimensions with
      | nil =>
          rw [found] at member
          exact absurd member (nothing rfl)
      | cons limit limits =>
          rw [found] at member
          have made := capacityAt?_adopt { throttle with store := throttle.store.counted }
            identity.dimensions dimension
          rw [mem_dimensions_iff] at member
          simp only [LimitStore.counted, found] at made
          by_contra absent
          rw [if_neg absent] at made
          exact member made

/-- Whoever names dimensions that have proper names leaves a throttle that serves such only. -/
theorem servesNamed_visit {throttle : Throttle} (named : throttle.ServesNamed)
    {identity : Identity}
    (proper : ∀ dimension ∈ identity.dimensions, isDimensionName dimension = true)
    (token : Token) : (throttle.visit use finish token identity).2.ServesNamed := by
  cases made : throttle.meters with
  | some meters =>
      have made : throttle.meters ≠ none := made ▸ Option.some_ne_none meters
      exact servesNamed_of_bare_eq (bare_visit made token identity) named
  | none =>
      have ensured : (throttle.ensureMeters identity).2.ServesNamed := fun dimension member =>
        proper dimension (mem_dimensions_ensureMeters made member)
      rw [visit]
      split
      · exact named
      · obtain ⟨between, -, ⟨fault, failed⟩ | ⟨meters, filed, ensuredAs⟩⟩ :=
          throttle.ensureMeters_cases identity .origin
        · rw [failed] at ensured ⊢
          exact ensured
        · rw [ensuredAs] at ensured ⊢
          have bare_eq : (between.withMeters (walk use finish token identity.pairs meters)).2.bare =
              between.bare := by
            simp only [withMeters, bare, filed, Option.map_some, bare_walk]
          exact servesNamed_of_bare_eq bare_eq ensured

end Throttle

end LoginThrottle
