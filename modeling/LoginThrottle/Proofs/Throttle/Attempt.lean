import LoginThrottle.Proofs.Throttle.Operations
import LoginThrottle.Proofs.Throttle.Sound

/-!
# Whether a check comes to a decision

A check walks along the dimensions of an identity.  It comes to a decision if it finds a limit
in each of them, or if an attempt is denied before it comes to one without a limit.

## Main Definitions

* `Limit.DecidesAlong`: limits with which a walk comes to a decision in any case
* `Throttle.Serves`: once meters are made, some dimensions have one if they have a limit

## Main Statements

* `Throttle.satisfy_decides`: a check comes to a decision if the limits are like that
* `Throttle.satisfy_fails`: else the first check ends in a fault
-/

namespace LoginThrottle

/-- A walk along some dimensions comes to a decision: each has a limit, or one has a limit that
is too small for anybody and those before it have limits too. -/
def Limit.DecidesAlong (limits : List Limit) (cost : Nat) : List String → Prop
  | [] => True
  | dimension :: rest =>
      ∃ capacity, capacityOf? limits dimension = some capacity ∧
        (capacity < cost ∨ DecidesAlong limits cost rest)

theorem Limit.decidesAlong_of_limited {limits : List Limit} {dimensions : List String}
    (limited : ∀ dimension ∈ dimensions, ∃ capacity,
      capacityOf? limits dimension = some capacity) (cost : Nat) :
    DecidesAlong limits cost dimensions := by
  induction dimensions with
  | nil => trivial
  | cons dimension rest inductionHypothesis =>
      obtain ⟨capacity, found⟩ := limited dimension List.mem_cons_self
      have limitedLater other member := limited other (List.mem_cons_of_mem _ member)
      exact ⟨capacity, found, .inr (inductionHypothesis limitedLater)⟩

namespace Throttle

/-! ### The dimensions that are served -/

/-- Once meters are made, each of some dimensions has one if it has a limit. -/
def Serves (throttle : Throttle) (dimensions : List String) : Prop :=
  throttle.meters ≠ none → ∀ dimension ∈ dimensions, ∀ capacity,
    Limit.capacityOf? throttle.store.limits dimension = some capacity →
      ∃ meter, throttle.currentMeters.find? dimension = some meter

theorem serves_of_none {throttle : Throttle} (unmade : throttle.meters = none)
    (dimensions : List String) : throttle.Serves dimensions :=
  fun made => absurd unmade made

variable {now : Instant} {throttle first second : Throttle} {deeds : List Deed}
  {dimensions : List String}

/-- Moves keep dimensions served if the meters are made for all of them. -/
theorem Move.serves (move : Move now first deeds second) (serves : first.Serves dimensions)
    (opened : ∀ asked, Deed.opened asked ∈ deeds → ∀ dimension ∈ dimensions, dimension ∈ asked) :
    second.Serves dimensions := by
  cases move with
  | fetch unmade => exact serves
  | adopt unmade asked =>
      -- The dimensions were all asked for, so each of them that has a limit gets a meter.
      intro _ dimension member capacity limited
      have inAsked := opened asked List.mem_cons_self dimension member
      refine ⟨(Meter.new dimension capacity first.rate).setCost first.cost, ?_⟩
      rw [currentMeters, Option.getD_some, find?_metersOf, Limit.capacityOf?_select,
        if_pos inAsked, show Limit.capacityOf? first.store.limits dimension = _ from limited]
      rfl
  | price cost =>
      intro made dimension member capacity limited
      have madeBefore : first.meters ≠ none := by
        intro unmade
        apply made
        rw [setCost, unmade]
        rfl
      obtain ⟨meter, served⟩ := serves madeBefore dimension member capacity limited
      exact ⟨meter.setCost cost, by rw [find?_setCost, served]; rfl⟩
  | @touch other meter served value effect held touch =>
      intro _ dimension member capacity limited
      have made : first.meters ≠ none := by
        intro unmade
        rw [currentMeters_of_none unmade] at served
        cases served
      rw [find?_withMeter]
      split
      · exact ⟨_, rfl⟩
      · exact serves made dimension member capacity limited
  | refuse => exact serves

theorem Moves.serves (moves : Moves now first deeds second) (serves : first.Serves dimensions)
    (opened : ∀ asked, Deed.opened asked ∈ deeds → ∀ dimension ∈ dimensions, dimension ∈ asked) :
    second.Serves dimensions := by
  induction moves with
  | none throttle => exact serves
  | more move others inductionHypothesis =>
      refine inductionHypothesis (move.serves serves ?_) ?_
      · exact fun asked member => opened asked (List.mem_append_left _ member)
      · exact fun asked member => opened asked (List.mem_append_right _ member)

theorem Serves.mono {others : List String} (serves : throttle.Serves others)
    (fewer : ∀ dimension ∈ dimensions, dimension ∈ others) : throttle.Serves dimensions :=
  fun made dimension member => serves made dimension (fewer dimension member)

/-! ### Walks that come to a decision -/

theorem opened_not_mem_deeds (asked : List String) (dimension value : String)
    (effect : Bucket.Effect) : Deed.opened asked ∉ effect.deeds dimension value := by
  cases effect <;> simp [Bucket.Effect.deeds]

/-- A walk comes to a decision if the limits are such and the dimensions are served. -/
theorem chargeAll_decides {meters : Keyed Meter} (now : Instant) (pairs : List (String × String))
    (made : throttle.meters = some meters) (sound : throttle.Sound)
    (serves : throttle.Serves (pairs.map Prod.fst))
    (decides : Limit.DecidesAlong throttle.store.limits (max throttle.cost 1)
      (pairs.map Prod.fst)) :
    ∃ passed, (chargeAll now pairs meters).1 = .ok passed := by
  induction pairs generalizing throttle meters with
  | nil => exact ⟨true, rfl⟩
  | cons pair rest inductionHypothesis =>
      obtain ⟨dimension, value⟩ := pair
      obtain ⟨capacity, limited, choice⟩ := decides
      have notNone : throttle.meters ≠ none := by
        rw [made]
        exact Option.some_ne_none meters
      obtain ⟨meter, served⟩ := serves notNone dimension List.mem_cons_self capacity limited
      have soundMeter := sound dimension meter served
      obtain ⟨held, charged, touch⟩ := meter.take_cases value now
      have move := Move.touch served value touch
      -- The walk goes on from the throttle with the charged meter.
      have servesAfter := move.serves
        (serves.mono fun other member => List.mem_cons_of_mem dimension member)
        fun asked member => absurd member (opened_not_mem_deeds asked _ _ _)
      have soundAfter := move.sound sound
      rw [withMeter_eq made, ← charged] at servesAfter soundAfter
      rw [currentMeters_of_some made] at served
      rw [chargeAll, served]
      cases taken : meter.take value now with
      | mk paid chargedMeter =>
          rw [taken] at touch servesAfter soundAfter
          cases paid with
          | false => exact ⟨false, by simp [taken]⟩
          | true =>
              -- The cost was paid, so the limit is not too small for it.
              have enough : meter.cost ≤ meter.capacity :=
                touch.amount_le (soundMeter.fits value)
              have same := Option.some.inj (soundMeter.capacity_eq.symm.trans limited)
              rw [soundMeter.cost_eq, same] at enough
              have decidesLater := choice.resolve_left (Nat.not_lt.2 enough)
              simp only [taken, if_true]
              exact inductionHypothesis rfl soundAfter servesAfter decidesLater

theorem mem_openings {throttle : Throttle} {identity : Identity} {deed : Deed}
    (member : deed ∈ throttle.openings identity) : deed = .opened identity.dimensions := by
  unfold openings at member
  split at member
  · cases member
  · unfold adoption at member
    split at member
    · exact List.mem_singleton.1 member
    · cases member

/-- The meters can be made if no fetch fails and some dimension has a limit. -/
theorem exists_ensureMeters {identity : Identity}
    (reliable : ∀ fetch, throttle.store.outage fetch = false) {dimension : String} {capacity : Nat}
    (named : dimension ∈ identity.dimensions)
    (limited : Limit.capacityOf? throttle.store.limits dimension = some capacity) :
    ∃ meters, (throttle.ensureMeters identity).1 = .ok meters := by
  cases made : throttle.meters with
  | some meters => exact ⟨meters, by rw [ensureMeters, made]⟩
  | none =>
      rw [ensureMeters, made]
      have found : Limit.capacityOf?
          (Limit.select throttle.store.limits identity.dimensions) dimension = some capacity := by
        rw [Limit.capacityOf?_select, if_pos named, limited]
      cases selected : Limit.select throttle.store.limits identity.dimensions with
      | nil =>
          rw [selected] at found
          cases found
      | cons limit limits =>
          refine ⟨metersOf throttle.rate throttle.cost (limit :: limits), ?_⟩
          simp [LimitStore.fetch, LimitStore.answer, reliable, selected, adopt]

/-- A check comes to a decision if the limits are such and the dimensions are served. -/
theorem satisfy_decides {identity : Identity} (nonempty : identity.dimensions ≠ [])
    (sound : throttle.Sound) (reliable : ∀ fetch, throttle.store.outage fetch = false)
    (serves : throttle.Serves identity.dimensions)
    (decides : Limit.DecidesAlong throttle.store.limits (max throttle.cost 1)
      identity.dimensions) (now : Instant) :
    ∃ passed, (throttle.satisfy identity now).1 = .ok passed := by
  have named : identity.isEmpty = false := by
    rw [Identity.isEmpty, List.isEmpty_eq_false_iff]
    exact fun empty => nonempty (by rw [Identity.dimensions, empty]; rfl)
  rw [satisfy, named]
  obtain ⟨made, moves, ⟨fault, failed⟩ | ⟨meters, filed, ensured⟩⟩ :=
    throttle.ensureMeters_cases identity now
  · -- The first dimension has a limit, so there are limits to make meters from.
    cases walk : identity.dimensions with
    | nil => exact absurd walk nonempty
    | cons dimension rest =>
        rw [walk] at decides
        obtain ⟨capacity, limited, _⟩ := decides
        have first : dimension ∈ identity.dimensions := walk ▸ List.mem_cons_self
        obtain ⟨meters, ensured⟩ := exists_ensureMeters reliable first limited
        rw [failed] at ensured
        cases ensured
  · rw [ensured]
    have unpriced cost : Deed.priced cost ∉ throttle.openings identity := by
      intro member
      cases mem_openings member
    have servesAfter := moves.serves serves fun asked member dimension inWalk => by
      rwa [Deed.opened.inj (mem_openings member)]
    refine chargeAll_decides now identity.pairs filed (moves.sound sound) servesAfter ?_
    rw [moves.limits_eq, moves.cost_eq unpriced]
    exact decides

/-! ### Walks that end in a fault -/

/-- A meter that has seen no value yet pays for an attempt that costs no more than its
capacity. -/
theorem take_new {capacity cost : Nat} (enough : max cost 1 ≤ capacity) (name : String)
    (rate : RefillRate) (value : String) (now : Instant) :
    (((Meter.new name capacity rate).setCost cost).take value now).1 = true := by
  have unchanged : (Bucket.fresh capacity rate now).refill now = .fresh capacity rate now := by
    apply Bucket.refill_of_earned_eq_zero
    simp [Bucket.earned, Bucket.fresh]
  have bucket : ((Meter.new name capacity rate).setCost cost).bucketOf value now =
      .fresh capacity rate now := rfl
  have affordable : (Bucket.fresh capacity rate now).canPay (max cost 1) = true := by
    rw [Bucket.canPay, decide_eq_true_iff]
    exact ⟨by simp only [Bucket.fresh]; omega, enough⟩
  rw [Meter.take, bucket, Bucket.take, unchanged]
  simp only [show ((Meter.new name capacity rate).setCost cost).cost = max cost 1 from rfl,
    affordable, if_true]

/-- Along new meters, a walk ends in a fault if the limits do not bring it to a decision. -/
theorem chargeAll_fails {limits : List Limit} (rate : RefillRate) {cost : Nat}
    {meters : Keyed Meter} (now : Instant) {pairs : List (String × String)}
    (sorted : pairs.Pairwise fun first second => first.1 < second.1)
    (unused : ∀ pair ∈ pairs, meters.find? pair.1 =
      (Limit.capacityOf? limits pair.1).map fun capacity =>
        (Meter.new pair.1 capacity rate).setCost cost)
    (blocked : ¬ Limit.DecidesAlong limits (max cost 1) (pairs.map Prod.fst)) :
    (chargeAll now pairs meters).1 = .error .incorrectIdentity := by
  induction pairs generalizing meters with
  | nil => exact absurd trivial blocked
  | cons pair rest inductionHypothesis =>
      obtain ⟨dimension, value⟩ := pair
      have served := unused (dimension, value) List.mem_cons_self
      rw [chargeAll, served]
      cases limited : Limit.capacityOf? limits dimension with
      | none => rfl
      | some capacity =>
          have enough : max cost 1 ≤ capacity :=
            Nat.not_lt.1 fun small => blocked ⟨capacity, limited, .inl small⟩
          have blockedLater : ¬ Limit.DecidesAlong limits (max cost 1) (rest.map Prod.fst) :=
            fun decides => blocked ⟨capacity, limited, .inr decides⟩
          have paid := take_new enough dimension rate value now
          cases taken : ((Meter.new dimension capacity rate).setCost cost).take value now with
          | mk passed charged =>
              rw [taken] at paid
              simp only at paid
              subst paid
              simp only [Option.map_some, taken, if_true]
              -- No dimension comes twice, so the meters behind this one are still unused.
              refine inductionHypothesis (List.pairwise_cons.1 sorted).2 ?_ blockedLater
              intro other member
              have different : other.1 ≠ dimension :=
                (Identity.ne_of_mem_sorted sorted member).symm
              rw [Keyed.find?_put_of_ne _ _ different]
              exact unused other (List.mem_cons_of_mem _ member)

/-- The first check of a throttle ends in a fault if the limits do not bring it to a
decision. -/
theorem satisfy_fails {identity : Identity} (unmade : throttle.meters = none)
    (blocked : ¬ Limit.DecidesAlong throttle.store.limits (max throttle.cost 1)
      identity.dimensions) (now : Instant) :
    ∃ fault, (throttle.satisfy identity now).1 = .error fault := by
  unfold satisfy
  split
  · exact ⟨_, rfl⟩
  · rw [ensureMeters, unmade]
    cases answered : throttle.store.answer identity.dimensions with
    | error fault => exact ⟨fault, by simp [LimitStore.fetch, answered, adopt]⟩
    | ok limits =>
        cases limits with
        | nil => exact ⟨.noLimitsFound, by simp [LimitStore.fetch, answered, adopt]⟩
        | cons limit limits =>
            refine ⟨.incorrectIdentity, ?_⟩
            simp only [LimitStore.fetch, answered, adopt, withMeters]
            refine chargeAll_fails throttle.rate now identity.sorted ?_ blocked
            intro pair member
            have named : pair.1 ∈ identity.dimensions := List.mem_map.2 ⟨pair, member, rfl⟩
            rw [find?_metersOf, ← LimitStore.eq_select_of_answer answered,
              Limit.capacityOf?_select, if_pos named]

end Throttle

end LoginThrottle
