import LoginThrottle.Proofs.Identity
import LoginThrottle.Proofs.Throttle.Move

/-!
# The operations of a throttle as moves

Checks, questions and resets walk along the dimensions of an identity and touch one bucket
in each of them.

## Main Definitions

* `Throttle.adoption`, `Throttle.openings`: the making of the meters, if an answer or an
  identity brings it about
* `Throttle.payments`: what a check pays, dimension by dimension
* `Throttle.forgivals`: what a reset is asked to fill up

## Main Statements

* `Throttle.moves_satisfy`: the moves of a check have its opening and its payments as deeds
* `Throttle.moves_allowed`: the moves of a question have its opening only
* `Throttle.moves_reset`: the moves of a reset have its forgivals
-/

namespace LoginThrottle

namespace Meter

variable {meter : Meter} {value : String} {now : Instant}

/-- What a meter does to the bucket of a value when it charges it. -/
theorem take_cases (meter : Meter) (value : String) (now : Instant) :
    ∃ held, (meter.take value now).2 = meter.withBucket value (some held) ∧
      Bucket.Touch meter.capacity meter.rate meter.cost now (meter.buckets.find? value)
        (if (meter.take value now).1 then .paid meter.cost else .kept) (some held) := by
  cases affordable : ((meter.bucketOf value now).refill now).canPay meter.cost with
  | true =>
      have taken : meter.take value now =
          (true, meter.file value
            (((meter.bucketOf value now).refill now).withdraw meter.cost)) := by
        simp [take, Bucket.take, affordable]
      rw [taken]
      exact ⟨_, rfl, .pay affordable⟩
  | false =>
      have taken : meter.take value now =
          (false, meter.file value ((meter.bucketOf value now).refill now)) := by
        simp [take, Bucket.take, affordable]
      rw [taken]
      exact ⟨_, rfl, .look _⟩

/-- What a meter does to the bucket of a value when it fills it up, if there is one. -/
theorem reset_cases (meter : Meter) (value : String) (now : Instant) :
    (meter.reset value now = meter ∧ meter.buckets.find? value = none) ∨
      ∃ held, meter.reset value now = meter.withBucket value (some held) ∧
        Bucket.Touch meter.capacity meter.rate meter.cost now (meter.buckets.find? value)
          .filled (some held) := by
  cases found : meter.buckets.find? value with
  | none => exact .inl ⟨by rw [reset, found], rfl⟩
  | some bucket => exact .inr ⟨_, by rw [reset, found]; rfl, .fill bucket⟩

end Meter

namespace Throttle

variable {throttle : Throttle} {meters : Keyed Meter}

theorem currentMeters_of_some (made : throttle.meters = some meters) :
    throttle.currentMeters = meters := by
  rw [currentMeters, made, Option.getD_some]

/-- Filing meters is the same as filing the one that was changed. -/
theorem withMeter_eq (made : throttle.meters = some meters) (dimension : String) (meter : Meter) :
    throttle.withMeter dimension meter =
      { throttle with meters := some (meters.put dimension meter) } := by
  rw [withMeter, currentMeters_of_some made]

theorem self_eq (made : throttle.meters = some meters) :
    { throttle with meters := some meters } = throttle := by
  rw [← made]

/-! ### Making the meters -/

/-- The making of the meters, if an answer to a fetch brings it about. -/
def adoption (dimensions : List String) : Except Fault (List Limit) → List Deed
  | .ok (_ :: _) => [.opened dimensions]
  | _ => []

/-- A throttle comes from an answer to its meters, or to a fault. -/
theorem adopt_cases (unmade : throttle.meters = none) {dimensions : List String}
    {answer : Except Fault (List Limit)}
    (honest : ∀ limits, answer = .ok limits →
      Limit.select throttle.store.limits dimensions = limits) (now : Instant) :
    ∃ made, Moves now throttle (adoption dimensions answer) made ∧
      ((∃ fault, throttle.adopt answer = (.error fault, made)) ∨
        ∃ meters, made.meters = some meters ∧ throttle.adopt answer = (.ok meters, made)) := by
  rcases answer with fault | _ | ⟨limit, limits⟩
  · exact ⟨throttle, .none throttle, .inl ⟨fault, rfl⟩⟩
  · exact ⟨throttle, .none throttle, .inl ⟨_, rfl⟩⟩
  · have adopted : Move now throttle [.opened dimensions] _ := .adopt throttle unmade dimensions
    rw [honest _ rfl] at adopted
    exact ⟨_, adopted.alone, .inr ⟨_, rfl, rfl⟩⟩

/-- The making of the meters, if it comes with an identity. -/
def openings (throttle : Throttle) (identity : Identity) : List Deed :=
  match throttle.meters with
  | some _ => []
  | none => adoption identity.dimensions (throttle.store.answer identity.dimensions)

/-- A throttle comes to its meters, or to a fault, and opens on the way if need be. -/
theorem ensureMeters_cases (throttle : Throttle) (identity : Identity) (now : Instant) :
    ∃ made, Moves now throttle (throttle.openings identity) made ∧
      ((∃ fault, throttle.ensureMeters identity = (.error fault, made)) ∨
        ∃ meters, made.meters = some meters ∧
          throttle.ensureMeters identity = (.ok meters, made)) := by
  cases made : throttle.meters with
  | some meters =>
      rw [openings, made]
      exact ⟨throttle, .none throttle, .inr ⟨meters, made, by rw [ensureMeters, made]⟩⟩
  | none =>
      have fetched : Move now throttle [] { throttle with store := throttle.store.counted } :=
        .fetch throttle made
      have ensured : throttle.ensureMeters identity =
          { throttle with store := throttle.store.counted }.adopt
            (throttle.store.answer identity.dimensions) := by
        rw [ensureMeters, made]
        rfl
      have opened : throttle.openings identity =
          adoption identity.dimensions (throttle.store.answer identity.dimensions) := by
        rw [openings, made]
      obtain ⟨after, adopted, outcome⟩ :=
        @adopt_cases { throttle with store := throttle.store.counted } made _ _
          (fun _ => LimitStore.select_counted_of_answer) now
      rw [ensured, opened]
      exact ⟨after, .more fetched adopted, outcome⟩

theorem moves_ensureMeters (throttle : Throttle) (identity : Identity) (now : Instant) :
    Moves now throttle (throttle.openings identity) (throttle.ensureMeters identity).2 := by
  obtain ⟨made, moves, ⟨fault, failed⟩ | ⟨meters, -, ensured⟩⟩ :=
    throttle.ensureMeters_cases identity now
  · rwa [failed]
  · rwa [ensured]

/-! ### Checks -/

/-- What is paid along some dimensions. -/
def paymentsOf (now : Instant) : List (String × String) → Keyed Meter → List Deed
  | [], _ => []
  | (dimension, value) :: rest, meters =>
      match meters.find? dimension with
      | none => []
      | some meter =>
          let (paid, charged) := meter.take value now
          if paid then
            .withdrew dimension value meter.cost ::
              paymentsOf now rest (meters.put dimension charged)
          else
            []

/-- What a check pays, if it comes to the meters. -/
def payments (throttle : Throttle) (identity : Identity) (now : Instant) : List Deed :=
  match (throttle.ensureMeters identity).1 with
  | .error _ => []
  | .ok meters => paymentsOf now identity.pairs meters

/-- The deeds of a check. -/
def checkDeeds (throttle : Throttle) (identity : Identity) (now : Instant) : List Deed :=
  if identity.isEmpty then [] else throttle.openings identity ++ throttle.payments identity now

theorem forgiven_paymentsOf (dimension value : String) (now : Instant)
    (pairs : List (String × String)) (meters : Keyed Meter) :
    forgiven dimension value (paymentsOf now pairs meters) = 0 := by
  induction pairs generalizing meters with
  | nil => rfl
  | cons pair rest inductionHypothesis =>
      obtain ⟨other, name⟩ := pair
      rw [paymentsOf]
      split
      · rfl
      · simp only
        split
        · exact inductionHypothesis _
        · rfl

theorem forgiven_adoption (dimension value : String) (dimensions : List String)
    (answer : Except Fault (List Limit)) :
    forgiven dimension value (adoption dimensions answer) = 0 := by
  rcases answer with fault | _ | ⟨limit, limits⟩ <;> rfl

/-- Opening and paying fill nothing up. -/
theorem forgiven_openings (dimension value : String) (throttle : Throttle) (identity : Identity) :
    forgiven dimension value (throttle.openings identity) = 0 := by
  unfold openings
  split
  · rfl
  · exact forgiven_adoption dimension value _ _

theorem forgiven_payments (dimension value : String) (throttle : Throttle) (identity : Identity)
    (now : Instant) : forgiven dimension value (throttle.payments identity now) = 0 := by
  unfold payments
  split
  · rfl
  · exact forgiven_paymentsOf dimension value now identity.pairs _

/-- A check fills nothing up. -/
theorem forgiven_checkDeeds (dimension value : String) (throttle : Throttle)
    (identity : Identity) (now : Instant) :
    forgiven dimension value (throttle.checkDeeds identity now) = 0 := by
  unfold checkDeeds
  split
  · rfl
  · rw [forgiven_append, forgiven_openings, forgiven_payments]

theorem moves_chargeAll (now : Instant) (pairs : List (String × String))
    (made : throttle.meters = some meters) :
    Moves now throttle (paymentsOf now pairs meters)
      { throttle with meters := some (chargeAll now pairs meters).2 } := by
  induction pairs generalizing throttle meters with
  | nil =>
      rw [chargeAll, paymentsOf, self_eq made]
      exact .none throttle
  | cons pair rest inductionHypothesis =>
      obtain ⟨dimension, value⟩ := pair
      rw [chargeAll, paymentsOf]
      cases served : meters.find? dimension with
      | none =>
          simp only
          rw [self_eq made]
          exact .none throttle
      | some meter =>
          obtain ⟨held, charged, touch⟩ := meter.take_cases value now
          have move := Move.touch (by rw [currentMeters_of_some made, served]) value touch
          rw [withMeter_eq made, ← charged] at move
          cases taken : meter.take value now with
          | mk paid chargedMeter =>
              rw [taken] at move
              cases paid with
              | false =>
                  simp only [taken, Bool.false_eq_true, if_false]
                  exact move.alone
              | true =>
                  simp only [taken, if_true]
                  exact .more move (inductionHypothesis rfl)

theorem moves_satisfy (throttle : Throttle) (identity : Identity) (now : Instant) :
    Moves now throttle (throttle.checkDeeds identity now) (throttle.satisfy identity now).2 := by
  unfold satisfy checkDeeds
  split
  · exact .none throttle
  · obtain ⟨made, moves, ⟨fault, failed⟩ | ⟨meters, filed, ensured⟩⟩ :=
      throttle.ensureMeters_cases identity now
    · rw [payments, failed]
      exact moves.trans (.none made)
    · rw [payments, ensured]
      exact moves.trans (moves_chargeAll now identity.pairs filed)

/-! ### Questions -/

theorem moves_allowedAll (now : Instant) (pairs : List (String × String)) (least : Nat)
    (made : throttle.meters = some meters) :
    Moves now throttle []
      { throttle with meters := some (allowedAll now least pairs meters).2 } := by
  induction pairs generalizing throttle meters least with
  | nil =>
      rw [allowedAll, self_eq made]
      exact .none throttle
  | cons pair rest inductionHypothesis =>
      obtain ⟨dimension, value⟩ := pair
      rw [allowedAll]
      cases served : meters.find? dimension with
      | none =>
          simp only
          rw [self_eq made]
          exact .none throttle
      | some meter =>
          have touch : Bucket.Touch meter.capacity meter.rate meter.cost now
              (meter.buckets.find? value) .kept
              (some ((meter.bucketOf value now).refill now)) :=
            .look (meter.buckets.find? value)
          have move := Move.touch (by rw [currentMeters_of_some made, served]) value touch
          rw [withMeter_eq made] at move
          exact .more move (inductionHypothesis _ rfl)

/-- The deeds of a question. -/
def questionDeeds (throttle : Throttle) (identity : Identity) : List Deed :=
  if identity.isEmpty then [] else throttle.openings identity

theorem moves_allowed (throttle : Throttle) (identity : Identity) (now : Instant) :
    Moves now throttle (throttle.questionDeeds identity) (throttle.allowed identity now).2 := by
  unfold allowed questionDeeds
  split
  · exact .none throttle
  · obtain ⟨made, moves, ⟨fault, failed⟩ | ⟨meters, filed, ensured⟩⟩ :=
      throttle.ensureMeters_cases identity now
    · rw [failed]
      exact moves
    · rw [ensured]
      have asked := moves.trans (moves_allowedAll now identity.pairs largestCount filed)
      rwa [List.append_nil] at asked

/-! ### Resets -/

/-- What a reset is asked to fill up. -/
def forgivals (pairs : List (String × String)) : List Deed :=
  pairs.map fun pair => .forgave pair.1 pair.2

/-- A reset is asked once to fill up each bucket that its identity names. -/
theorem forgiven_forgivals (dimension value : String) (identity : Identity) :
    forgiven dimension value (forgivals identity.pairs) =
      if identity.get? dimension = some value then 1 else 0 := by
  simp only [Identity.get?_eq_some_iff]
  obtain ⟨pairs, sorted⟩ := identity
  simp only
  induction pairs with
  | nil => rfl
  | cons pair rest inductionHypothesis =>
      obtain ⟨other, name⟩ := pair
      have counted : forgiven dimension value (forgivals ((other, name) :: rest)) =
          (if other = dimension ∧ name = value then 1 else 0) +
            forgiven dimension value (forgivals rest) := rfl
      rw [counted, inductionHypothesis (List.pairwise_cons.1 sorted).2]
      by_cases here : other = dimension ∧ name = value
      · obtain ⟨rfl, rfl⟩ := here
        -- The dimensions of an identity are distinct.
        have absent : (other, name) ∉ rest := fun member =>
          Identity.ne_of_mem_sorted sorted member rfl
        simp [absent]
      · have different : ¬ (dimension, value) = (other, name) := fun same =>
          here ⟨(Prod.mk.inj same).1.symm, (Prod.mk.inj same).2.symm⟩
        simp [here, different]

/-- A throttle may do nothing of what it is asked to fill up. -/
theorem moves_refuse (throttle : Throttle) (now : Instant) (pairs : List (String × String)) :
    Moves now throttle (forgivals pairs) throttle := by
  induction pairs with
  | nil => exact .none throttle
  | cons pair rest inductionHypothesis =>
      exact .more (.refuse throttle pair.1 pair.2) inductionHypothesis

theorem moves_resetAll (now : Instant) (pairs : List (String × String))
    (made : throttle.meters = some meters) :
    Moves now throttle (forgivals pairs)
      { throttle with meters := some (resetAll now pairs meters).2 } := by
  induction pairs generalizing throttle meters with
  | nil =>
      rw [resetAll, self_eq made]
      exact .none throttle
  | cons pair rest inductionHypothesis =>
      obtain ⟨dimension, value⟩ := pair
      rw [resetAll]
      cases served : meters.find? dimension with
      | none =>
          simp only
          rw [self_eq made]
          exact throttle.moves_refuse now _
      | some meter =>
          simp only
          -- A value without a bucket has nothing to be filled up, but that was asked for.
          rcases meter.reset_cases value now with ⟨same, _⟩ | ⟨held, filled, touch⟩
          · rw [same, Keyed.put_of_find? served]
            exact .more (.refuse throttle dimension value) (inductionHypothesis made)
          · have move := Move.touch (by rw [currentMeters_of_some made, served]) value touch
            rw [withMeter_eq made, ← filled] at move
            exact .more move (inductionHypothesis rfl)

theorem moves_reset (throttle : Throttle) (identity : Identity) (now : Instant) :
    Moves now throttle (forgivals identity.pairs) (throttle.reset identity now).2 := by
  unfold reset
  split
  · exact throttle.moves_refuse now _
  · cases made : throttle.meters with
    | none => exact throttle.moves_refuse now _
    | some meters => exact moves_resetAll now identity.pairs made

end Throttle

end LoginThrottle
