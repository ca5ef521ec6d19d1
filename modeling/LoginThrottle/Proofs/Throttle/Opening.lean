import LoginThrottle.Proofs.Throttle.Layout
import LoginThrottle.Proofs.Throttle.Operations

/-!
# How a throttle comes to its meters

A throttle without meters fetches limits for everybody who asks, until a fetch finds some.  From
then on it serves the dimensions of whoever asked then, and nobody else has a say in that.

## Main Definitions

* `Opening`: the fetches that were made and who brought the throttle its meters
* `Opening.ask`: what becomes of that when an identity asks
* `Throttle.Follows`: a throttle that is as its opening says

## Main Statements

* `Throttle.ensureMeters_of_none`: without meters, asking makes one fetch, which opens the
  throttle or fails
* `Throttle.Follows.satisfy`, `Throttle.Follows.allowed`: checks and questions ask
* `Throttle.Follows.of_evict`, `Throttle.Follows.of_withdraw`: who deals with buckets by their
  keys does not
-/

namespace LoginThrottle

/-- How far a throttle has come to its meters. -/
structure Opening where
  fetches : Nat
  /-- The identity whose dimensions are served. -/
  opener : Option Identity
  deriving DecidableEq

namespace LimitStore

/-- The store once so many fetches were made. -/
def fetched (store : LimitStore) (fetches : Nat) : LimitStore :=
  { store with fetches := fetches }

/-- Whether the next fetch finds a limit for some identity. -/
def findsFor (store : LimitStore) (identity : Identity) : Bool :=
  match store.answer identity.dimensions with
  | .ok (_ :: _) => true
  | _ => false

/-- What a fetch for an identity that finds no limit comes to. -/
def FailsWith (store : LimitStore) (identity : Identity) (fault : Fault) : Prop :=
  store.answer identity.dimensions = .error fault ∨
    store.answer identity.dimensions = .ok [] ∧ fault = .noLimitsFound

/-- The capacities of the last limits in the dimensions of an identity. -/
def capacityFor (store : LimitStore) (identity : Identity) (dimension : String) : Option Nat :=
  if dimension ∈ identity.dimensions then Limit.capacityOf? store.limits dimension else none

/-- The dimensions of an identity that get a capacity are those for which there is a limit. -/
theorem capacityFor_ne_none_iff {store : LimitStore} {identity : Identity} {dimension : String} :
    store.capacityFor identity dimension ≠ none ↔
      dimension ∈ identity.dimensions ∧ ∃ limit ∈ store.limits, limit.dimension = dimension := by
  rw [capacityFor]
  split
  · next asked =>
      rw [Limit.capacityOf?, Ne, Option.map_eq_none_iff, List.find?_eq_none]
      simp [asked]
  · next unasked => simp [unasked]

end LimitStore

/-- What becomes of an opening when an identity asks.  Only who names something asks, and the
first for whom a limit is found is the last to be fetched for. -/
def Opening.ask (store : LimitStore) (opening : Opening) (identity : Identity) : Opening :=
  match opening.opener with
  | some _ => opening
  | none =>
    if identity.isEmpty then
      opening
    else
      ⟨opening.fetches + 1,
        if (store.fetched opening.fetches).findsFor identity then some identity else none⟩

theorem Opening.ask_of_isEmpty {identity : Identity} (nameless : identity.isEmpty = true)
    (store : LimitStore) (opening : Opening) : opening.ask store identity = opening := by
  unfold ask
  split
  · rfl
  · rw [if_pos nameless]

namespace Throttle

/-- A throttle is as its opening says. -/
inductive Follows (store : LimitStore) : Throttle → Opening → Prop
  | closed {throttle : Throttle} {fetches : Nat} (store_eq : throttle.store = store.fetched fetches)
      (unmade : throttle.meters = none) : Follows store throttle ⟨fetches, none⟩
  | opened {throttle : Throttle} {fetches : Nat} {opener : Identity}
      (laidOut : throttle.LaidOut (store.fetched fetches) (store.capacityFor opener)) :
      Follows store throttle ⟨fetches, some opener⟩

variable {now : Instant} {store : LimitStore} {throttle after : Throttle} {opening : Opening}
  {identity : Identity} {key : String}

/-! ### Throttles without meters -/

/-- Without meters, asking makes one fetch, which opens the throttle or fails. -/
theorem ensureMeters_of_none (unmade : throttle.meters = none) (identity : Identity) :
    (∃ fault, throttle.store.findsFor identity = false ∧
      throttle.store.FailsWith identity fault ∧
      throttle.ensureMeters identity =
        (.error fault, { throttle with store := throttle.store.counted })) ∨
    throttle.store.findsFor identity = true ∧
      ∃ meters, (throttle.ensureMeters identity).1 = .ok meters ∧
        (throttle.ensureMeters identity).2.meters = some meters ∧
        (throttle.ensureMeters identity).2.LaidOut throttle.store.counted
          (throttle.store.capacityFor identity) := by
  have ensured : throttle.ensureMeters identity =
      { throttle with store := throttle.store.counted }.adopt
        (throttle.store.answer identity.dimensions) := by
    rw [ensureMeters, unmade]
    rfl
  rw [ensured]
  unfold LimitStore.findsFor LimitStore.FailsWith
  cases answered : throttle.store.answer identity.dimensions with
  | error fault => exact .inl ⟨fault, rfl, .inl rfl, rfl⟩
  | ok limits =>
      cases limits with
      | nil => exact .inl ⟨_, rfl, .inr ⟨rfl, rfl⟩, rfl⟩
      | cons limit others =>
          refine .inr ⟨rfl, _, rfl, rfl, Option.some_ne_none _, rfl, fun dimension => ?_⟩
          have laid := capacityAt?_adopt { throttle with store := throttle.store.counted }
            identity.dimensions dimension
          rwa [LimitStore.select_counted_of_answer answered] at laid

theorem satisfy_of_isEmpty (nameless : identity.isEmpty = true) (throttle : Throttle)
    (now : Instant) : throttle.satisfy identity now = (.error .incorrectIdentity, throttle) := by
  rw [satisfy, if_pos nameless]

theorem allowed_of_isEmpty (nameless : identity.isEmpty = true) (throttle : Throttle)
    (now : Instant) : throttle.allowed identity now = (.error .incorrectIdentity, throttle) := by
  rw [allowed, if_pos nameless]

theorem reset_of_isEmpty (nameless : identity.isEmpty = true) (throttle : Throttle)
    (now : Instant) : throttle.reset identity now = (.error .incorrectIdentity, throttle) := by
  rw [reset, if_pos nameless]

/-- Without meters there is nothing to fill up. -/
theorem reset_of_none (unmade : throttle.meters = none) (named : identity.isEmpty = false)
    (now : Instant) : throttle.reset identity now = (.error .noLimitsFound, throttle) := by
  rw [reset, named, unmade]
  rfl

theorem satisfy_of_error {fault : Fault} (named : identity.isEmpty = false)
    (failed : throttle.ensureMeters identity = (.error fault, after)) (now : Instant) :
    throttle.satisfy identity now = (.error fault, after) := by
  rw [satisfy, named, failed]
  rfl

theorem allowed_of_error {fault : Fault} (named : identity.isEmpty = false)
    (failed : throttle.ensureMeters identity = (.error fault, after)) (now : Instant) :
    throttle.allowed identity now = (.error fault, after) := by
  rw [allowed, named, failed]
  rfl

/-- Without meters, whoever names something and finds no limit has one fetch made. -/
theorem exists_fault_of_none (unmade : throttle.meters = none) (named : identity.isEmpty = false)
    (misses : throttle.store.findsFor identity = false) (now : Instant) :
    ∃ fault, throttle.store.FailsWith identity fault ∧
      let refused := { throttle with store := throttle.store.counted }
      throttle.satisfy identity now = (.error fault, refused) ∧
        throttle.allowed identity now = (.error fault, refused) := by
  rcases ensureMeters_of_none unmade identity with ⟨fault, -, fails, failed⟩ | ⟨finds, -⟩
  · exact ⟨fault, fails, satisfy_of_error named failed now, allowed_of_error named failed now⟩
  · rw [misses] at finds
    cases finds

theorem buckets_of_none (unmade : throttle.meters = none) : throttle.buckets = Keyed.empty := by
  rw [buckets, currentMeters_of_none unmade]
  rfl

theorem bucketCount_of_none (unmade : throttle.meters = none) : throttle.bucketCount = 0 := by
  rw [bucketCount, currentMeters_of_none unmade]
  rfl

theorem dimensions_of_none (unmade : throttle.meters = none) : throttle.dimensions = [] := by
  rw [dimensions, currentMeters_of_none unmade]
  rfl

/-! ### What follows an opening -/

namespace Follows

theorem store_eq (follows : Follows store throttle opening) :
    throttle.store = store.fetched opening.fetches := by
  cases follows with
  | closed store_eq unmade => exact store_eq
  | opened laidOut => exact laidOut.store_eq

theorem unmade (follows : Follows store throttle opening) (closed : opening.opener = none) :
    throttle.meters = none := by
  cases follows with
  | closed store_eq unmade => exact unmade
  | opened laidOut => cases closed

theorem laidOut (follows : Follows store throttle opening) {opener : Identity}
    (opened : opening.opener = some opener) :
    throttle.LaidOut (store.fetched opening.fetches) (store.capacityFor opener) := by
  cases follows with
  | closed store_eq unmade => cases opened
  | opened laidOut => exact Option.some.inj opened ▸ laidOut

/-- Moves of a throttle with meters leave its opening. -/
theorem of_moves {deeds : List Deed} (follows : Follows store throttle opening)
    (made : throttle.meters ≠ none) (moves : Moves now throttle deeds after) :
    Follows store after opening := by
  cases follows with
  | closed store_eq unmade => exact absurd unmade made
  | opened laidOut => exact .opened (moves.laidOut laidOut)

theorem of_evict (evicted : throttle.evict key = .ok after)
    (follows : Follows store throttle opening) : Follows store after opening := by
  cases follows with
  | closed store_eq unmade =>
      obtain ⟨dimension, value, meter, -, served, -⟩ := exists_of_evict evicted
      rw [currentMeters_of_none unmade] at served
      cases served
  | opened laidOut => exact .opened (laidOut_of_evict evicted laidOut)

theorem of_withdraw {cost : Nat}
    (adjusted : throttle.adjustBucket key (fun bucket => bucket.withdraw cost) = some after)
    (follows : Follows store throttle opening) : Follows store after opening := by
  cases follows with
  | closed store_eq unmade =>
      rw [adjustBucket, buckets_of_none unmade] at adjusted
      cases adjusted
  | opened laidOut => exact .opened (laidOut_of_withdraw adjusted laidOut)

theorem setCost (follows : Follows store throttle opening) (cost : Nat) :
    Follows store (throttle.setCost cost) opening := by
  cases follows with
  | closed store_eq unmade => exact .closed store_eq (Option.map_eq_none_iff.2 unmade)
  | opened laidOut => exact .opened ((@Move.price .origin throttle cost).laidOut laidOut)

theorem reset (follows : Follows store throttle opening) (identity : Identity) (now : Instant) :
    Follows store (throttle.reset identity now).2 opening := by
  cases follows with
  | closed store_eq unmade =>
      cases named : identity.isEmpty with
      | true =>
          rw [reset_of_isEmpty named]
          exact .closed store_eq unmade
      | false =>
          rw [reset_of_none unmade named]
          exact .closed store_eq unmade
  | opened laidOut => exact .opened ((throttle.moves_reset identity now).laidOut laidOut)

/-- Who names something and comes to the meters asks. -/
theorem ensureMeters (follows : Follows store throttle opening)
    (named : identity.isEmpty = false) :
    Follows store (throttle.ensureMeters identity).2 (opening.ask store identity) := by
  cases follows with
  | @closed fetches store_eq unmade =>
      have counted : (store.fetched fetches).counted = store.fetched (fetches + 1) := rfl
      rw [Opening.ask, named]
      simp only [Bool.false_eq_true, if_false]
      rcases ensureMeters_of_none unmade identity with
        ⟨fault, misses, -, failed⟩ | ⟨finds, meters, -, -, laidOut⟩
      · rw [store_eq] at misses failed
        rw [misses, failed]
        exact .closed counted unmade
      · rw [store_eq] at finds laidOut
        rw [finds]
        exact .opened laidOut
  | opened laidOut =>
      obtain ⟨meters, made⟩ := Option.ne_none_iff_exists'.1 laidOut.made
      rw [Throttle.ensureMeters, made]
      exact .opened laidOut

theorem satisfy (follows : Follows store throttle opening) (identity : Identity) (now : Instant) :
    Follows store (throttle.satisfy identity now).2 (opening.ask store identity) := by
  cases named : identity.isEmpty with
  | true => rwa [satisfy_of_isEmpty named, Opening.ask_of_isEmpty named]
  | false =>
      have asked := follows.ensureMeters named
      obtain ⟨made, -, ⟨fault, failed⟩ | ⟨meters, filed, ensured⟩⟩ :=
        throttle.ensureMeters_cases identity now
      · rw [satisfy_of_error named failed]
        rwa [failed] at asked
      · rw [ensured] at asked
        rw [Throttle.satisfy, named, ensured]
        refine asked.of_moves ?_ (moves_chargeAll now identity.pairs filed)
        rw [filed]
        exact Option.some_ne_none meters

theorem allowed (follows : Follows store throttle opening) (identity : Identity) (now : Instant) :
    Follows store (throttle.allowed identity now).2 (opening.ask store identity) := by
  cases named : identity.isEmpty with
  | true => rwa [allowed_of_isEmpty named, Opening.ask_of_isEmpty named]
  | false =>
      have asked := follows.ensureMeters named
      obtain ⟨made, -, ⟨fault, failed⟩ | ⟨meters, filed, ensured⟩⟩ :=
        throttle.ensureMeters_cases identity now
      · rw [allowed_of_error named failed]
        rwa [failed] at asked
      · rw [ensured] at asked
        rw [Throttle.allowed, named, ensured]
        refine asked.of_moves ?_ (moves_allowedAll now identity.pairs largestCount filed)
        rw [filed]
        exact Option.some_ne_none meters

end Follows

end Throttle

end LoginThrottle
