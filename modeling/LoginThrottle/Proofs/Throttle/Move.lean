import LoginThrottle.Proofs.Bucket
import LoginThrottle.Proofs.Keyed
import LoginThrottle.Proofs.Limit
import LoginThrottle.Throttle

/-!
# The moves of a throttle

Whatever a throttle does, it does in small moves: it fetches limits, makes its meters, sets
a cost, or touches the bucket of one value.

## Main Definitions

* `Deed`: what clients can notice of a move, with `withdrawn` and `forgiven` as totals
* `Throttle.bucketAt?`: the bucket of a value in a dimension
* `Throttle.Move`: one move and its deeds
* `Throttle.Moves`: some moves, one after the other, and their deeds

## Main Statements

* `Throttle.find?_metersOf`: the meters that are made from limits
* `Throttle.Move.bucketAt?_cases`: a move touches the bucket of a value or leaves it alone
* `Throttle.Moves.preserves`: what every move preserves is preserved by all of them
-/

namespace LoginThrottle

/-! ### Deeds -/

/-- What clients can notice of what a throttle does. -/
inductive Deed
  /-- An attempt of a value in a dimension was paid for. -/
  | withdrew (dimension value : String) (amount : Nat)
  /-- The bucket of a value in a dimension was to be filled up. -/
  | forgave (dimension value : String)
  /-- Later attempts were given a cost. -/
  | priced (cost : Nat)
  /-- Meters were made from the limits of some dimensions. -/
  | opened (dimensions : List String)
  deriving DecidableEq, Repr

/-- The tokens that were paid for a value in a dimension. -/
def withdrawn (dimension value : String) : List Deed → Nat
  | [] => 0
  | .withdrew other name amount :: deeds =>
      (if other = dimension ∧ name = value then amount else 0) + withdrawn dimension value deeds
  | _ :: deeds => withdrawn dimension value deeds

/-- How often the bucket of a value in a dimension was to be filled up. -/
def forgiven (dimension value : String) : List Deed → Nat
  | [] => 0
  | .forgave other name :: deeds =>
      (if other = dimension ∧ name = value then 1 else 0) + forgiven dimension value deeds
  | _ :: deeds => forgiven dimension value deeds

@[simp] theorem withdrawn_append (dimension value : String) (first second : List Deed) :
    withdrawn dimension value (first ++ second) =
      withdrawn dimension value first + withdrawn dimension value second := by
  induction first with
  | nil => simp [withdrawn]
  | cons deed rest inductionHypothesis =>
      cases deed <;> simp only [List.cons_append, withdrawn, inductionHypothesis, Nat.add_assoc]

@[simp] theorem forgiven_append (dimension value : String) (first second : List Deed) :
    forgiven dimension value (first ++ second) =
      forgiven dimension value first + forgiven dimension value second := by
  induction first with
  | nil => simp [forgiven]
  | cons deed rest inductionHypothesis =>
      cases deed <;> simp only [List.cons_append, forgiven, inductionHypothesis, Nat.add_assoc]

/-- What clients can notice of an effect on the bucket of a value. -/
def Bucket.Effect.deeds (dimension value : String) : Bucket.Effect → List Deed
  | kept => []
  | paid amount => [.withdrew dimension value amount]
  | filled => [.forgave dimension value]

theorem withdrawn_deeds (dimension value : String) (effect : Bucket.Effect) :
    withdrawn dimension value (effect.deeds dimension value) = effect.amount := by
  cases effect <;> simp [Bucket.Effect.deeds, withdrawn, Bucket.Effect.amount]

theorem forgiven_deeds (dimension value : String) (effect : Bucket.Effect) :
    forgiven dimension value (effect.deeds dimension value) = effect.fills := by
  cases effect <;> simp [Bucket.Effect.deeds, forgiven, Bucket.Effect.fills]

theorem withdrawn_deeds_of_ne {dimension value other name : String}
    (elsewhere : ¬ (other = dimension ∧ name = value)) (effect : Bucket.Effect) :
    withdrawn dimension value (effect.deeds other name) = 0 := by
  cases effect <;> simp [Bucket.Effect.deeds, withdrawn, elsewhere]

/-! ### Meters and their buckets -/

namespace Meter

/-- The meter with another bucket of a value, or with none. -/
def withBucket (meter : Meter) (value : String) : Option Bucket → Meter
  | some bucket => meter.file value bucket
  | none => meter.evict value

variable (meter : Meter) (value : String) (held : Option Bucket)

@[simp] theorem dimension_withBucket : (meter.withBucket value held).dimension =
    meter.dimension := by
  cases held <;> rfl

@[simp] theorem capacity_withBucket : (meter.withBucket value held).capacity =
    meter.capacity := by
  cases held <;> rfl

@[simp] theorem rate_withBucket : (meter.withBucket value held).rate = meter.rate := by
  cases held <;> rfl

@[simp] theorem cost_withBucket : (meter.withBucket value held).cost = meter.cost := by
  cases held <;> rfl

theorem find?_withBucket (name : String) :
    (meter.withBucket value held).buckets.find? name =
      if name = value then held else meter.buckets.find? name := by
  cases held with
  | none => exact Keyed.find?_erase meter.buckets value name
  | some bucket => exact Keyed.find?_put meter.buckets value name bucket

end Meter

namespace Throttle

/-- The bucket of a value in a dimension. -/
def bucketAt? (throttle : Throttle) (dimension value : String) : Option Bucket :=
  (throttle.currentMeters.find? dimension).bind fun meter => meter.buckets.find? value

/-- The throttle with another meter for a dimension. -/
def withMeter (throttle : Throttle) (dimension : String) (meter : Meter) : Throttle :=
  { throttle with meters := some (throttle.currentMeters.put dimension meter) }

theorem currentMeters_of_none {throttle : Throttle} (unmade : throttle.meters = none) :
    throttle.currentMeters = Keyed.empty := by
  rw [currentMeters, unmade, Option.getD_none]

theorem bucketAt?_of_none {throttle : Throttle} (unmade : throttle.meters = none)
    (dimension value : String) : throttle.bucketAt? dimension value = none := by
  rw [bucketAt?, currentMeters_of_none unmade, Keyed.find?_empty, Option.bind_none]

theorem find?_withMeter (throttle : Throttle) (dimension name : String) (meter : Meter) :
    (throttle.withMeter dimension meter).currentMeters.find? name =
      if name = dimension then some meter else throttle.currentMeters.find? name :=
  Keyed.find?_put throttle.currentMeters dimension name meter

theorem find?_setCost (throttle : Throttle) (cost : Nat) (name : String) :
    (throttle.setCost cost).currentMeters.find? name =
      (throttle.currentMeters.find? name).map fun meter => meter.setCost cost := by
  cases made : throttle.meters with
  | none => simp [currentMeters, setCost, made]
  | some meters => simp [currentMeters, setCost, made, Keyed.find?_mapValues]

/-- The meters that are made from limits. -/
theorem find?_metersOf (rate : RefillRate) (cost : Nat) (limits : List Limit) (name : String) :
    (metersOf rate cost limits).find? name = (Limit.capacityOf? limits name).map fun capacity =>
      (Meter.new name capacity rate).setCost cost := by
  rw [metersOf, Keyed.find?_ofPairs, ← List.map_reverse, List.find?_map, Limit.capacityOf?]
  simp only [Function.comp_def]
  cases found : limits.reverse.find? fun limit => limit.dimension == name with
  | none => rfl
  | some limit =>
      have named := List.find?_some found
      simp only [beq_iff_eq] at named
      simp [named]

/-! ### Moves -/

/-- One move of a throttle at a reading, and its deeds. -/
inductive Move (now : Instant) : Throttle → List Deed → Throttle → Prop
  | fetch (throttle : Throttle) (unmade : throttle.meters = none) :
      Move now throttle [] { throttle with store := throttle.store.counted }
  | adopt (throttle : Throttle) (unmade : throttle.meters = none) (dimensions : List String) :
      Move now throttle [.opened dimensions]
        { throttle with
          meters := some (metersOf throttle.rate throttle.cost
            (Limit.select throttle.store.limits dimensions)) }
  | price (throttle : Throttle) (cost : Nat) :
      Move now throttle [.priced cost] (throttle.setCost cost)
  | touch {throttle : Throttle} {dimension : String} {meter : Meter}
      (served : throttle.currentMeters.find? dimension = some meter) (value : String)
      {effect : Bucket.Effect} {held : Option Bucket}
      (touch : Bucket.Touch meter.capacity meter.rate meter.cost now
        (meter.buckets.find? value) effect held) :
      Move now throttle (effect.deeds dimension value)
        (throttle.withMeter dimension (meter.withBucket value held))
  /-- What was to be filled up is not, for want of a bucket or a meter. -/
  | refuse (throttle : Throttle) (dimension value : String) :
      Move now throttle [.forgave dimension value] throttle

variable {now : Instant} {first second third : Throttle} {deeds later : List Deed}

/-- A move touches the bucket of a value or leaves it alone. -/
theorem Move.bucketAt?_cases (move : Move now first deeds second) (dimension value : String) :
    (second.bucketAt? dimension value = first.bucketAt? dimension value ∧
      withdrawn dimension value deeds = 0) ∨
    ∃ meter effect, first.currentMeters.find? dimension = some meter ∧
      Bucket.Touch meter.capacity meter.rate meter.cost now (first.bucketAt? dimension value)
        effect (second.bucketAt? dimension value) ∧
      withdrawn dimension value deeds = effect.amount ∧
      forgiven dimension value deeds = effect.fills := by
  cases move with
  | fetch unmade => exact .inl ⟨rfl, rfl⟩
  | adopt unmade dimensions =>
      -- New meters have no buckets, and before there were no meters.
      refine .inl ⟨?_, rfl⟩
      rw [bucketAt?_of_none unmade, bucketAt?]
      simp only [currentMeters, Option.getD_some, find?_metersOf]
      cases Limit.capacityOf? (Limit.select first.store.limits dimensions) dimension <;> rfl
  | price cost =>
      refine .inl ⟨?_, rfl⟩
      rw [bucketAt?, bucketAt?, find?_setCost]
      cases first.currentMeters.find? dimension <;> rfl
  | @touch other meter served name effect held touch =>
      by_cases here : other = dimension ∧ name = value
      · obtain ⟨rfl, rfl⟩ := here
        refine .inr ⟨meter, effect, served, ?_, withdrawn_deeds _ _ _, forgiven_deeds _ _ _⟩
        simpa [bucketAt?, served, find?_withMeter, Meter.find?_withBucket] using touch
      · refine .inl ⟨?_, withdrawn_deeds_of_ne here effect⟩
        rw [bucketAt?, bucketAt?, find?_withMeter]
        by_cases same : dimension = other
        · subst same
          have different : ¬ value = name := fun equal => here ⟨rfl, equal.symm⟩
          simp [served, Meter.find?_withBucket, different]
        · rw [if_neg same]
  | refuse => exact .inl ⟨rfl, rfl⟩

/-- Some moves of a throttle at one reading, one after the other, and their deeds. -/
inductive Moves (now : Instant) : Throttle → List Deed → Throttle → Prop
  | none (throttle : Throttle) : Moves now throttle [] throttle
  | more {first second third : Throttle} {deeds later : List Deed}
      (move : Move now first deeds second) (others : Moves now second later third) :
      Moves now first (deeds ++ later) third

theorem Move.alone (move : Move now first deeds second) : Moves now first deeds second := by
  have moves := Moves.more move (.none second)
  rwa [List.append_nil] at moves

theorem Moves.trans (one : Moves now first deeds second) (two : Moves now second later third) :
    Moves now first (deeds ++ later) third := by
  induction one with
  | none throttle => exact two
  | more move others inductionHypothesis =>
      rw [List.append_assoc]
      exact .more move (inductionHypothesis two)

/-- What every move preserves is preserved by all of them. -/
theorem Moves.preserves (Invariant : Throttle → Prop)
    (keeps : ∀ {first second : Throttle} {deeds : List Deed},
      Move now first deeds second → Invariant first → Invariant second)
    (moves : Moves now first deeds second) (holds : Invariant first) : Invariant second := by
  induction moves with
  | none throttle => exact holds
  | more move others inductionHypothesis => exact inductionHypothesis (keeps move holds)

end Throttle

end LoginThrottle
