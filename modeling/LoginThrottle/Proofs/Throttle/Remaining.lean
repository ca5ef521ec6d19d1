import LoginThrottle.Proofs.Throttle.Operations
import LoginThrottle.Proofs.Throttle.Sound
import Mathlib.Data.List.Forall2

/-!
# What is left to an identity

At one reading of the clock, an identity has so many attempts left in each of its dimensions.
A question reads these numbers off and a check takes one from each of them, up to the first
that is zero.

## Main Definitions

* `Meter.left`: the attempts left to a value
* `Throttle.spend`: what a check leaves of the numbers along the dimensions
* `Throttle.Leaves`: the numbers left along the dimensions of an identity

## Main Statements

* `Throttle.foldl_min_spend`: a check takes one from the least of the numbers
* `Throttle.Leaves.satisfy`, `Throttle.Leaves.allowed`: checks and questions in terms of the
  numbers
* `Throttle.exists_leaves`: a question that is answered reads off the least of some numbers

## Design Notes

Both look at a bucket by refilling it, and at one reading a second refill does nothing.  So it
does not matter which of the two comes first, nor which of them finds a value without a bucket.
-/

namespace LoginThrottle

namespace Meter

/-- The attempts left to a value at a reading. -/
def left (meter : Meter) (value : String) (now : Instant) : Nat :=
  (meter.affordable value now).1

variable (meter : Meter) (value : String) (now : Instant)

theorem left_eq : meter.left value now =
    ((meter.bucketOf value now).refill now).tokens / max meter.cost 1 := rfl

@[simp] theorem bucketOf_file (bucket : Bucket) :
    (meter.file value bucket).bucketOf value now = bucket := by
  simp [bucketOf, file]

/-- Counting the attempts left to a value takes none of them. -/
theorem left_affordable : (meter.affordable value now).2.left value now = meter.left value now := by
  rw [left_eq, left_eq]
  change (((meter.file value ((meter.bucketOf value now).refill now)).bucketOf value now).refill
    now).tokens / max meter.cost 1 = _
  rw [bucketOf_file, Bucket.refill_refill]

/-- An attempt is paid for if one is left. -/
theorem take_of_left_pos (priced : 0 < meter.cost) (some_left : 0 < meter.left value now) :
    meter.take value now =
      (true, meter.file value (((meter.bucketOf value now).refill now).withdraw meter.cost)) := by
  rw [left_eq, Nat.max_eq_left priced, Nat.div_pos_iff] at some_left
  have affordable : ((meter.bucketOf value now).refill now).canPay meter.cost = true := by
    rw [Bucket.canPay, decide_eq_true_iff]
    omega
  simp [take, Bucket.take, affordable]

/-- If none is left an attempt is not paid for. -/
theorem take_of_left_eq_zero (priced : 0 < meter.cost) (none_left : meter.left value now = 0) :
    meter.take value now = (false, meter.file value ((meter.bucketOf value now).refill now)) := by
  rw [left_eq, Nat.max_eq_left priced, Nat.div_eq_zero_iff] at none_left
  have unaffordable : ((meter.bucketOf value now).refill now).canPay meter.cost = false := by
    rw [Bucket.canPay, decide_eq_false_iff_not]
    omega
  simp [take, Bucket.take, unaffordable]

theorem fst_take (priced : 0 < meter.cost) :
    (meter.take value now).1 = decide (0 < meter.left value now) := by
  rcases Nat.eq_zero_or_pos (meter.left value now) with none_left | some_left
  · rw [take_of_left_eq_zero meter value now priced none_left, none_left]
    rfl
  · rw [take_of_left_pos meter value now priced some_left, decide_eq_true some_left]

/-- Charging a value takes one of the attempts left to it, if there is one. -/
theorem left_take (priced : 0 < meter.cost) :
    (meter.take value now).2.left value now = meter.left value now - 1 := by
  rcases Nat.eq_zero_or_pos (meter.left value now) with none_left | some_left
  · rw [take_of_left_eq_zero meter value now priced none_left, none_left]
    exact (meter.left_affordable value now).trans none_left
  · have enough : meter.cost ≤ ((meter.bucketOf value now).refill now).tokens := by
      rw [left_eq, Nat.max_eq_left priced] at some_left
      exact (Nat.div_pos_iff.1 some_left).2
    have one_less := Nat.div_eq_sub_div priced enough
    rw [take_of_left_pos meter value now priced some_left]
    rw [left_eq, left_eq, bucketOf_file, Bucket.refill_withdraw_refill, Nat.max_eq_left priced,
      one_less]
    change _ / max meter.cost 1 = _
    rw [Nat.max_eq_left priced]
    rfl

@[simp] theorem cost_take : (meter.take value now).2.cost = meter.cost := by
  simp only [take, Bucket.take]
  split <;> rfl

/-- No more attempts are left to a value than the capacity has tokens. -/
theorem Sound.left_le {limits : List Limit} {rate : RefillRate} {cost : Nat} {name : String}
    {meter : Meter} (sound : meter.Sound limits rate cost name) (value : String) (now : Instant) :
    meter.left value now ≤ meter.capacity := by
  have fits : (meter.bucketOf value now).Fits meter.capacity meter.rate :=
    Bucket.fits_getD (sound.fits value) now
  exact Nat.le_trans (Nat.div_le_self _ _) (fits.refill now).tokens_le

end Meter

namespace Throttle

/-! ### Numbers along the dimensions -/

/-- What a check leaves of the attempts left along some dimensions: it takes one from each, up
to the first that has none. -/
def spend : List Nat → List Nat
  | [] => []
  | 0 :: rest => 0 :: rest
  | (left + 1) :: rest => left :: spend rest

theorem foldl_min_of_mem_zero {lefts : List Nat} (member : 0 ∈ lefts) (least : Nat) :
    lefts.foldl min least = 0 := by
  induction lefts generalizing least with
  | nil => cases member
  | cons left rest inductionHypothesis =>
      rw [List.foldl_cons]
      rcases List.mem_cons.1 member with rfl | later
      · rw [Nat.min_zero, List.foldl_fixed' Nat.zero_min]
      · exact inductionHypothesis later _

theorem zero_mem_spend {lefts : List Nat} (member : 0 ∈ lefts) : 0 ∈ spend lefts := by
  induction lefts with
  | nil => cases member
  | cons left rest inductionHypothesis =>
      cases left with
      | zero => exact List.mem_cons_self
      | succ fewer =>
          have later : 0 ∈ rest := (List.mem_cons.1 member).resolve_left (by omega)
          exact List.mem_cons_of_mem _ (inductionHypothesis later)

/-- If every number is positive, a check takes one from the least of them. -/
theorem foldl_min_spend_of_pos {lefts : List Nat} (positive : ∀ left ∈ lefts, 0 < left)
    (least : Nat) : (spend lefts).foldl min (least - 1) = lefts.foldl min least - 1 := by
  induction lefts generalizing least with
  | nil => rfl
  | cons left rest inductionHypothesis =>
      have positiveLater other member := positive other (List.mem_cons_of_mem left member)
      cases left with
      | zero => exact absurd (positive 0 List.mem_cons_self) (Nat.lt_irrefl 0)
      | succ fewer =>
          have less : min (least - 1) fewer = min least (fewer + 1) - 1 := by omega
          rw [spend, List.foldl_cons, List.foldl_cons, less, inductionHypothesis positiveLater]

/-- A check takes one from the least of the numbers. -/
theorem foldl_min_spend {lefts : List Nat} (nonempty : lefts ≠ []) {bound : Nat}
    (bounded : ∀ left ∈ lefts, left ≤ bound) :
    (spend lefts).foldl min bound = lefts.foldl min bound - 1 := by
  by_cases blocked : 0 ∈ lefts
  · rw [foldl_min_of_mem_zero blocked, foldl_min_of_mem_zero (zero_mem_spend blocked)]
  · have positive : ∀ left ∈ lefts, 0 < left := by
      intro left member
      exact Nat.pos_of_ne_zero fun zero => blocked (zero ▸ member)
    rw [← foldl_min_spend_of_pos positive]
    -- The first number lies below the bound, so it does not matter to lower the bound.
    rcases lefts with _ | ⟨_ | fewer, rest⟩
    · exact absurd rfl nonempty
    · exact absurd List.mem_cons_self blocked
    · have below := bounded (fewer + 1) List.mem_cons_self
      have same : min bound fewer = min (bound - 1) fewer := by omega
      rw [spend, List.foldl_cons, List.foldl_cons, same]

theorem all_pos_iff_foldl_min {lefts : List Nat} {bound : Nat} (bound_pos : 0 < bound) :
    (lefts.all fun left => decide (0 < left)) = decide (0 < lefts.foldl min bound) := by
  induction lefts generalizing bound with
  | nil => simp [bound_pos]
  | cons left rest inductionHypothesis =>
      rcases Nat.eq_zero_or_pos left with rfl | positive
      · rw [foldl_min_of_mem_zero List.mem_cons_self]
        rfl
      · rw [List.all_cons, List.foldl_cons, ← inductionHypothesis (by omega)]
        simp [positive]

theorem le_of_mem_spend {lefts : List Nat} {bound : Nat} (bounded : ∀ left ∈ lefts, left ≤ bound) :
    ∀ left ∈ spend lefts, left ≤ bound := by
  induction lefts with
  | nil => exact bounded
  | cons left rest inductionHypothesis =>
      cases left with
      | zero => exact bounded
      | succ fewer =>
          have below := bounded (fewer + 1) List.mem_cons_self
          have boundedLater other member := bounded other (List.mem_cons_of_mem _ member)
          intro other member
          rcases List.mem_cons.1 member with rfl | later
          · omega
          · exact inductionHypothesis boundedLater other later

/-! ### Along the meters -/

/-- A pair has so many attempts left with the meter of its dimension. -/
def HasLeft (now : Instant) (meters : Keyed Meter) (pair : String × String) (left : Nat) : Prop :=
  ∃ meter, meters.find? pair.1 = some meter ∧ 0 < meter.cost ∧ meter.left pair.2 now = left

variable {now : Instant} {meters : Keyed Meter} {pairs : List (String × String)}
  {lefts : List Nat}

theorem HasLeft.put {pair : String × String} {left : Nat} (has : HasLeft now meters pair left)
    {dimension : String} (elsewhere : pair.1 ≠ dimension) (meter : Meter) :
    HasLeft now (meters.put dimension meter) pair left := by
  obtain ⟨own, served, priced, same⟩ := has
  exact ⟨own, by rw [Keyed.find?_put_of_ne _ _ elsewhere, served], priced, same⟩

/-- Dimensions that come later keep what is left. -/
theorem hasLeft_put {dimension value : String} (meter : Meter)
    (sorted : ((dimension, value) :: pairs).Pairwise fun first second => first.1 < second.1)
    (have_left : List.Forall₂ (HasLeft now meters) pairs lefts) :
    List.Forall₂ (HasLeft now (meters.put dimension meter)) pairs lefts := by
  have elsewhere : ∀ pair ∈ pairs, pair.1 ≠ dimension := fun pair member =>
    (Identity.ne_of_mem_sorted sorted member).symm
  clear sorted
  induction have_left with
  | nil => exact .nil
  | cons has _ inductionHypothesis =>
      refine .cons (has.put (elsewhere _ List.mem_cons_self) meter) ?_
      exact inductionHypothesis fun pair member => elsewhere pair (List.mem_cons_of_mem _ member)

/-- A dimension keeps what is left to it while later ones are dealt with. -/
theorem find?_chargeAll {dimension : String} (elsewhere : ∀ pair ∈ pairs, pair.1 ≠ dimension)
    (now : Instant) (meters : Keyed Meter) :
    (chargeAll now pairs meters).2.find? dimension = meters.find? dimension := by
  induction pairs generalizing meters with
  | nil => rfl
  | cons pair rest inductionHypothesis =>
      obtain ⟨other, value⟩ := pair
      have elsewhereLater pair member := elsewhere pair (List.mem_cons_of_mem _ member)
      have different : dimension ≠ other := (elsewhere _ List.mem_cons_self).symm
      rw [chargeAll]
      cases served : meters.find? other with
      | none => rfl
      | some meter =>
          cases taken : meter.take value now with
          | mk paid charged =>
              cases paid with
              | false => simp [taken, Keyed.find?_put_of_ne _ _ different]
              | true =>
                  simp only [taken, if_true]
                  rw [inductionHypothesis elsewhereLater, Keyed.find?_put_of_ne _ _ different]

theorem find?_allowedAll {dimension : String} (elsewhere : ∀ pair ∈ pairs, pair.1 ≠ dimension)
    (now : Instant) (least : Nat) (meters : Keyed Meter) :
    (allowedAll now least pairs meters).2.find? dimension = meters.find? dimension := by
  induction pairs generalizing least meters with
  | nil => rfl
  | cons pair rest inductionHypothesis =>
      obtain ⟨other, value⟩ := pair
      have elsewhereLater pair member := elsewhere pair (List.mem_cons_of_mem _ member)
      have different : dimension ≠ other := (elsewhere _ List.mem_cons_self).symm
      rw [allowedAll]
      cases served : meters.find? other with
      | none => rfl
      | some meter =>
          simp only
          rw [inductionHypothesis elsewhereLater, Keyed.find?_put_of_ne _ _ different]

/-- A check passes if every dimension has an attempt left, and it spends them. -/
theorem chargeAll_of_hasLeft
    (sorted : pairs.Pairwise fun first second => first.1 < second.1)
    (have_left : List.Forall₂ (HasLeft now meters) pairs lefts) :
    (chargeAll now pairs meters).1 = .ok (lefts.all fun left => decide (0 < left)) ∧
      List.Forall₂ (HasLeft now (chargeAll now pairs meters).2) pairs (spend lefts) := by
  induction pairs generalizing meters lefts with
  | nil =>
      cases have_left
      exact ⟨rfl, .nil⟩
  | cons pair rest inductionHypothesis =>
      obtain ⟨dimension, value⟩ := pair
      obtain _ | ⟨⟨meter, served, priced, left_eq⟩, later⟩ := have_left
      subst left_eq
      simp only at served
      have paid := meter.fst_take value now priced
      have one_less := meter.left_take value now priced
      have same_cost := meter.cost_take value now
      rw [chargeAll, served]
      cases taken : meter.take value now with
      | mk passed charged =>
          rw [taken] at paid one_less same_cost
          simp only at paid one_less same_cost
          have laterKept := hasLeft_put charged sorted later
          rcases Nat.eq_zero_or_pos (meter.left value now) with none_left | some_left
          · rw [none_left] at paid one_less ⊢
            obtain rfl : passed = false := paid
            simp only [taken, Bool.false_eq_true, if_false]
            refine ⟨rfl, .cons ⟨charged, ?_, same_cost ▸ priced, one_less⟩ laterKept⟩
            rw [Keyed.find?_put_self]
          · obtain ⟨fewer, same⟩ := Nat.exists_eq_succ_of_ne_zero (Nat.ne_of_gt some_left)
            rw [same] at paid one_less ⊢
            obtain rfl : passed = true := paid
            simp only [taken, if_true]
            obtain ⟨answered, leftAfter⟩ :=
              inductionHypothesis (List.pairwise_cons.1 sorted).2 laterKept
            refine ⟨?_, .cons ⟨charged, ?_, same_cost ▸ priced, one_less⟩ leftAfter⟩
            · rw [answered]
              simp
            · -- No later pair is for the dimension of the first.
              have elsewhere : ∀ pair ∈ rest, pair.1 ≠ dimension := fun pair member =>
                (Identity.ne_of_mem_sorted sorted member).symm
              rw [find?_chargeAll elsewhere, Keyed.find?_put_self]

/-- A question is answered with the least of the attempts left, and takes none. -/
theorem allowedAll_of_hasLeft
    (sorted : pairs.Pairwise fun first second => first.1 < second.1)
    (have_left : List.Forall₂ (HasLeft now meters) pairs lefts) (least : Nat) :
    (allowedAll now least pairs meters).1 = .ok (lefts.foldl min least) ∧
      List.Forall₂ (HasLeft now (allowedAll now least pairs meters).2) pairs lefts := by
  induction pairs generalizing meters lefts least with
  | nil =>
      cases have_left
      exact ⟨rfl, .nil⟩
  | cons pair rest inductionHypothesis =>
      obtain ⟨dimension, value⟩ := pair
      obtain _ | ⟨⟨meter, served, priced, left_eq⟩, later⟩ := have_left
      subst left_eq
      simp only at served
      have same_left := meter.left_affordable value now
      have laterKept := hasLeft_put (meter.affordable value now).2 sorted later
      rw [allowedAll, served]
      obtain ⟨answered, leftAfter⟩ := inductionHypothesis (List.pairwise_cons.1 sorted).2 laterKept
        (min least (meter.left value now))
      refine ⟨answered, .cons ⟨(meter.affordable value now).2, ?_, priced, same_left⟩ leftAfter⟩
      have elsewhere : ∀ pair ∈ rest, pair.1 ≠ dimension := fun pair member =>
        (Identity.ne_of_mem_sorted sorted member).symm
      simp only
      rw [find?_allowedAll elsewhere]
      exact Keyed.find?_put_self meters dimension _

/-- A question that is answered has found a meter for each dimension. -/
theorem served_of_allowedAll {least answer : Nat}
    (answered : (allowedAll now least pairs meters).1 = .ok answer) :
    ∀ pair ∈ pairs, ∃ meter, meters.find? pair.1 = some meter := by
  induction pairs generalizing meters least with
  | nil => exact fun _ member => absurd member List.not_mem_nil
  | cons pair rest inductionHypothesis =>
      obtain ⟨dimension, value⟩ := pair
      rw [allowedAll] at answered
      cases served : meters.find? dimension with
      | none =>
          rw [served] at answered
          cases answered
      | some meter =>
          rw [served] at answered
          intro other member
          rcases List.mem_cons.1 member with rfl | later
          · exact ⟨meter, served⟩
          · obtain ⟨found, kept⟩ := inductionHypothesis answered other later
            rw [Keyed.find?_put] at kept
            split at kept
            · next same => exact ⟨meter, same ▸ served⟩
            · exact ⟨found, kept⟩

theorem exists_hasLeft {bound : Nat}
    (served : ∀ pair ∈ pairs, ∃ meter, meters.find? pair.1 = some meter)
    (priced : ∀ name meter, meters.find? name = some meter → 0 < meter.cost)
    (bounded : ∀ name meter value, meters.find? name = some meter → meter.left value now ≤ bound) :
    ∃ lefts, List.Forall₂ (HasLeft now meters) pairs lefts ∧ ∀ left ∈ lefts, left ≤ bound := by
  induction pairs with
  | nil => exact ⟨[], .nil, fun _ member => absurd member List.not_mem_nil⟩
  | cons pair rest inductionHypothesis =>
      obtain ⟨meter, found⟩ := served pair List.mem_cons_self
      obtain ⟨lefts, have_left, below⟩ :=
        inductionHypothesis fun other member => served other (List.mem_cons_of_mem _ member)
      have first : HasLeft now meters pair (meter.left pair.2 now) :=
        ⟨meter, found, priced _ _ found, rfl⟩
      refine ⟨meter.left pair.2 now :: lefts, .cons first have_left, ?_⟩
      intro left member
      rcases List.mem_cons.1 member with rfl | later
      · exact bounded _ _ _ found
      · exact below left later

/-! ### Checks and questions -/

/-- Along the dimensions of an identity so many attempts are left at a reading, once the meters
are made. -/
def Leaves (throttle : Throttle) (identity : Identity) (now : Instant) (lefts : List Nat) : Prop :=
  ∃ meters made, throttle.ensureMeters identity = (.ok meters, made) ∧
    List.Forall₂ (HasLeft now meters) identity.pairs lefts

variable {throttle : Throttle} {identity : Identity}

/-- Whoever names something has some number left. -/
theorem Leaves.ne_nil (leaves : throttle.Leaves identity now lefts)
    (named : identity.isEmpty = false) : lefts ≠ [] := by
  obtain ⟨meters, made, -, have_left⟩ := leaves
  rintro rfl
  have nameless : identity.pairs = [] := List.forall₂_nil_right_iff.1 have_left
  rw [Identity.isEmpty, nameless] at named
  cases named

/-- A throttle with meters need not make them. -/
theorem ensureMeters_of_some (throttle : Throttle) (meters : Keyed Meter) (identity : Identity) :
    ensureMeters { throttle with meters := some meters } identity =
      (.ok meters, { throttle with meters := some meters }) := rfl

/-- A check passes if every dimension has an attempt left, and it spends them. -/
theorem Leaves.satisfy (named : identity.isEmpty = false)
    (leaves : throttle.Leaves identity now lefts) :
    (throttle.satisfy identity now).1 = .ok (lefts.all fun left => decide (0 < left)) ∧
      (throttle.satisfy identity now).2.Leaves identity now (spend lefts) := by
  obtain ⟨meters, made, ensured, have_left⟩ := leaves
  obtain ⟨answered, leftAfter⟩ := chargeAll_of_hasLeft identity.sorted have_left
  have checked : throttle.satisfy identity now =
      made.withMeters (chargeAll now identity.pairs meters) := by
    simp [Throttle.satisfy, named, ensured]
  rw [checked]
  exact ⟨answered, _, _, ensureMeters_of_some made _ identity, leftAfter⟩

/-- A question is answered with the least of the attempts left, and takes none. -/
theorem Leaves.allowed (named : identity.isEmpty = false)
    (leaves : throttle.Leaves identity now lefts) :
    (throttle.allowed identity now).1 = .ok (lefts.foldl min largestCount) ∧
      (throttle.allowed identity now).2.Leaves identity now lefts := by
  obtain ⟨meters, made, ensured, have_left⟩ := leaves
  obtain ⟨answered, leftAfter⟩ := allowedAll_of_hasLeft identity.sorted have_left largestCount
  have asked : throttle.allowed identity now =
      made.withMeters (allowedAll now largestCount identity.pairs meters) := by
    simp [Throttle.allowed, named, ensured]
  rw [asked]
  exact ⟨answered, _, _, ensureMeters_of_some made _ identity, leftAfter⟩

/-- A question that is answered reads off the least of some numbers. -/
theorem exists_leaves (sound : throttle.Sound)
    (fits : ∀ limit ∈ throttle.store.limits, limit.capacity ≤ largestCount) {answer : Nat}
    (answered : (throttle.allowed identity now).1 = .ok answer) :
    identity.isEmpty = false ∧ ∃ lefts, throttle.Leaves identity now lefts ∧
      ∀ left ∈ lefts, left ≤ largestCount := by
  unfold Throttle.allowed at answered
  split at answered
  · cases answered
  · next named =>
      refine ⟨Bool.eq_false_iff.2 named, ?_⟩
      obtain ⟨made, moves, ⟨fault, failed⟩ | ⟨meters, filed, ensured⟩⟩ :=
        throttle.ensureMeters_cases identity now
      · rw [failed] at answered
        cases answered
      · rw [ensured] at answered
        have soundMade := moves.sound sound
        have agrees name meter (found : meters.find? name = some meter) :=
          soundMade name meter (by rw [currentMeters_of_some filed, found])
        have priced name meter (found : meters.find? name = some meter) : 0 < meter.cost := by
          rw [(agrees name meter found).cost_eq]
          omega
        have bounded name meter value (found : meters.find? name = some meter) :
            meter.left value now ≤ largestCount := by
          obtain ⟨limit, stored, -, same⟩ :=
            Limit.exists_of_capacityOf? (agrees name meter found).capacity_eq
          have low := (agrees name meter found).left_le value now
          rw [← same] at low
          exact Nat.le_trans low (fits limit (moves.limits_eq ▸ stored))
        obtain ⟨lefts, have_left, below⟩ :=
          exists_hasLeft (served_of_allowedAll answered) priced bounded
        exact ⟨lefts, ⟨meters, made, ensured, have_left⟩, below⟩

end Throttle

end LoginThrottle
