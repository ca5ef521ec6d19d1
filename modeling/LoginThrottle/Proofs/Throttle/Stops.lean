import LoginThrottle.Proofs.Throttle.Attempt
import LoginThrottle.Proofs.Throttle.Walk

/-!
# Where a walk comes by

A check comes by the buckets of the values that its identity names, up to the first that cannot
pay.  A reset comes by all of them.  Both do something to each bucket that they come by, and a
bucket that has been charged is not full if the capacity allows for the cost.

## Main Definitions

* `Throttle.stops`: the pairs that a walk comes by
* `Throttle.chargedBy`, `Throttle.filledBy`: the pairs that a check and a reset come by
* `Throttle.Affords`: every limit allows for the cost of an attempt

## Main Statements

* `Throttle.bucketIn?_walk_of_mem`: a walk uses the buckets that it comes by
* `Throttle.bucketIn?_walk_of_not_mem`: it leaves others alone
* `Throttle.bucketAt?_satisfy`: a bucket that has been charged is not full
* `Throttle.bucketAt?_reset`: a bucket that has been filled up is, since the reading at which it was
-/

namespace LoginThrottle

/-- A bucket that was asked for a cost which it could have paid when it was full is not full. -/
theorem Bucket.Fits.isFull_take {bucket : Bucket} {capacity cost : Nat} {rate : RefillRate}
    {now : Instant} (fits : bucket.Fits capacity rate) (positive : 0 < cost)
    (enough : cost ≤ capacity) : (bucket.take cost now).2.isFull = false := by
  obtain ⟨capacity_eq, -, tokens_le⟩ := fits.refill now
  unfold Bucket.take
  simp only
  split
  · next payable =>
      rw [canPay, decide_eq_true_eq] at payable
      rw [isFull, beq_eq_false_iff_ne, capacity_withdraw]
      change (bucket.refill now).tokens - cost ≠ (bucket.refill now).capacity
      omega
  · next unpayable =>
      rw [canPay, decide_eq_true_eq] at unpayable
      rw [isFull, beq_eq_false_iff_ne]
      change (bucket.refill now).tokens ≠ (bucket.refill now).capacity
      omega

namespace Throttle

variable {Token Answer : Type} {use : Usage Token Answer} {finish : Token → Answer}

/-! ### The stops of a walk -/

/-- The pairs that a walk comes by. -/
def stops (use : Usage Token Answer) :
    Token → List (String × String) → Keyed Meter → List (String × String)
  | _, [], _ => []
  | token, (dimension, value) :: rest, meters =>
    match meters.find? dimension with
    | none => []
    | some meter =>
      let (course, held) := use token meter.bare (meter.buckets.find? value)
      (dimension, value) ::
        match course with
        | .ended _ => []
        | .on token => stops use token rest (meters.put dimension (meter.withBucket value held))

theorem mem_of_mem_stops {token : Token} {pairs : List (String × String)} {meters : Keyed Meter}
    {pair : String × String} (stop : pair ∈ stops use token pairs meters) : pair ∈ pairs := by
  induction pairs generalizing token meters with
  | nil => exact stop
  | cons first rest inductionHypothesis =>
      obtain ⟨dimension, value⟩ := first
      rw [stops] at stop
      split at stop
      · cases stop
      · simp only at stop
        rcases List.mem_cons.1 stop with rfl | later
        · exact List.mem_cons_self
        · split at later
          · cases later
          · exact List.mem_cons_of_mem _ (inductionHypothesis later)

/-- A walk leaves the buckets alone that it does not come by. -/
theorem bucketIn?_walk_of_not_mem {token : Token} {pairs : List (String × String)}
    {meters : Keyed Meter} {pair : String × String} (apart : pair ∉ stops use token pairs meters) :
    bucketIn? (walk use finish token pairs meters).2 pair.1 pair.2 =
      bucketIn? meters pair.1 pair.2 := by
  induction pairs generalizing token meters with
  | nil => rfl
  | cons first rest inductionHypothesis =>
      obtain ⟨dimension, value⟩ := first
      rw [stops] at apart
      rw [walk]
      cases served : meters.find? dimension with
      | none => rfl
      | some meter =>
          cases used : use token meter.bare (meter.buckets.find? value) with
          | mk course held =>
              have elsewhere (different : pair ≠ (dimension, value)) :
                  bucketIn? (meters.put dimension (meter.withBucket value held)) pair.1 pair.2 =
                    bucketIn? meters pair.1 pair.2 := by
                rw [bucketIn?_put served, if_neg different]
              cases course with
              | ended answer =>
                  simp only [served, used, List.mem_singleton] at apart ⊢
                  exact elsewhere apart
              | on next =>
                  simp only [served, used, List.mem_cons, not_or] at apart ⊢
                  exact (inductionHypothesis apart.2).trans (elsewhere apart.1)

/-- A walk uses the buckets that it comes by, and it goes on behind each of them if it fails. -/
theorem bucketIn?_walk_of_mem {token : Token} {pairs : List (String × String)}
    (sorted : pairs.Pairwise fun first second => first.1 < second.1) {meters : Keyed Meter}
    {pair : String × String} (stop : pair ∈ stops use token pairs meters) :
    ∃ carried meter, meters.find? pair.1 = some meter ∧
      bucketIn? (walk use finish token pairs meters).2 pair.1 pair.2 =
        (use carried meter.bare (meter.buckets.find? pair.2)).2 ∧
      ∀ fault, (walk use finish token pairs meters).1 = .error fault →
        ∃ next, (use carried meter.bare (meter.buckets.find? pair.2)).1 = .on next := by
  induction pairs generalizing token meters with
  | nil => exact absurd stop List.not_mem_nil
  | cons first rest inductionHypothesis =>
      obtain ⟨dimension, value⟩ := first
      rw [stops] at stop
      rw [walk]
      cases served : meters.find? dimension with
      | none =>
          simp only [served] at stop
          cases stop
      | some meter =>
          cases used : use token meter.bare (meter.buckets.find? value) with
          | mk course held =>
              have here : bucketIn? (meters.put dimension (meter.withBucket value held)) dimension
                  value = (use token meter.bare (meter.buckets.find? value)).2 := by
                rw [bucketIn?_put served, if_pos rfl, used]
              cases course with
              | ended answer =>
                  simp only [served, used, List.mem_singleton] at stop ⊢
                  subst stop
                  refine ⟨token, meter, served, here, fun _ failed => ?_⟩
                  cases failed
              | on next =>
                  -- A dimension does not come twice, so the walk does not come back.
                  have apart {name : String} (again : (dimension, name) ∈ stops use next rest
                      (meters.put dimension (meter.withBucket value held))) : False :=
                    Identity.ne_of_mem_sorted sorted (mem_of_mem_stops again) rfl
                  simp only [served, used, List.mem_cons] at stop ⊢
                  rcases stop with rfl | later
                  · exact ⟨token, meter, served, (bucketIn?_walk_of_not_mem apart).trans here,
                      fun _ _ => ⟨next, congrArg Prod.fst used⟩⟩
                  · obtain ⟨carried, other, found, changed, goesOn⟩ :=
                      inductionHypothesis (List.pairwise_cons.1 sorted).2 later
                    have different : pair.1 ≠ dimension := by
                      rintro rfl
                      exact apart later
                    rw [Keyed.find?_put_of_ne _ _ different] at found
                    exact ⟨carried, other, found, changed, goesOn⟩

/-! ### The stops of a visit -/

/-- The pairs that a visit comes by, once the meters are made. -/
def stopsOf (use : Usage Token Answer) (token : Token) (throttle : Throttle)
    (identity : Identity) : List (String × String) :=
  match (throttle.ensureMeters identity).1 with
  | .error _ => []
  | .ok meters => stops use token identity.pairs meters

/-- New meters have no buckets. -/
theorem bucketAt?_ensureMeters (throttle : Throttle) (identity : Identity)
    (dimension value : String) :
    (throttle.ensureMeters identity).2.bucketAt? dimension value =
      throttle.bucketAt? dimension value := by
  cases made : throttle.meters with
  | some meters => rw [ensureMeters, made]
  | none =>
      rw [bucketAt?_of_none made, ensureMeters, made]
      simp only [LimitStore.fetch]
      rcases throttle.store.answer identity.dimensions with fault | _ | ⟨limit, limits⟩
      · exact bucketAt?_of_none rfl dimension value
      · exact bucketAt?_of_none rfl dimension value
      · simp only [adopt, bucketAt?, currentMeters, Option.getD_some, find?_metersOf]
        cases Limit.capacityOf? (limit :: limits) dimension <;> rfl

/-- A visit does something to the buckets that it comes by, and nothing to others.  It goes on
behind each of them if it fails. -/
theorem bucketAt?_visit (token : Token) (throttle : Throttle) (identity : Identity)
    (pair : String × String) :
    (pair ∉ throttle.stopsOf use token identity →
        (throttle.visit use finish token identity).2.bucketAt? pair.1 pair.2 =
          throttle.bucketAt? pair.1 pair.2) ∧
      (pair ∈ throttle.stopsOf use token identity →
        ∃ carried meter,
          (throttle.ensureMeters identity).2.currentMeters.find? pair.1 = some meter ∧
          (throttle.visit use finish token identity).2.bucketAt? pair.1 pair.2 =
            (use carried meter.bare (throttle.bucketAt? pair.1 pair.2)).2 ∧
          ∀ fault, (throttle.visit use finish token identity).1 = .error fault →
            ∃ next, (use carried meter.bare (throttle.bucketAt? pair.1 pair.2)).1 = .on next) := by
  have before := throttle.bucketAt?_ensureMeters identity pair.1 pair.2
  obtain ⟨made, -, ⟨fault, failed⟩ | ⟨meters, filed, ensured⟩⟩ :=
    throttle.ensureMeters_cases identity .origin
  · rw [failed] at before
    simp only [stopsOf, visit, failed]
    refine ⟨fun _ => ?_, fun stop => absurd stop List.not_mem_nil⟩
    split
    · rfl
    · exact before
  · rw [ensured] at before
    simp only [stopsOf, visit, ensured]
    have same : made.bucketAt? pair.1 pair.2 = bucketIn? meters pair.1 pair.2 := by
      rw [bucketAt?, currentMeters_of_some filed, bucketIn?]
    have unchanged := same.symm.trans before
    split
    · next empty =>
        -- Nobody comes by anything.
        refine ⟨fun _ => rfl, fun stop => ?_⟩
        have nobody := mem_of_mem_stops stop
        rw [List.isEmpty_iff.1 empty] at nobody
        cases nobody
    · refine ⟨fun apart => (bucketIn?_walk_of_not_mem apart).trans unchanged, fun stop => ?_⟩
      obtain ⟨carried, meter, served, changed, goesOn⟩ :=
        @bucketIn?_walk_of_mem _ _ use finish _ _ identity.sorted _ _ stop
      have held : meter.buckets.find? pair.2 = throttle.bucketAt? pair.1 pair.2 := by
        rw [← unchanged, bucketIn?, served, Option.bind_some]
      rw [held] at changed goesOn
      exact ⟨carried, meter, by rw [currentMeters_of_some filed, served], changed, goesOn⟩

/-! ### The stops of checks -/

/-- Every limit allows for the cost of an attempt. -/
def Affords (throttle : Throttle) : Prop :=
  ∀ limit ∈ throttle.store.limits, max throttle.cost 1 ≤ limit.capacity

theorem Moves.affords {now : Instant} {first second : Throttle} {deeds : List Deed}
    (moves : Moves now first deeds second) (unpriced : ∀ cost, Deed.priced cost ∉ deeds)
    (affords : first.Affords) : second.Affords := by
  unfold Affords
  rw [moves.limits_eq, moves.cost_eq unpriced]
  exact affords

theorem Sound.cost_le_capacity {throttle : Throttle} (sound : throttle.Sound)
    (affords : throttle.Affords) {dimension : String} {meter : Meter}
    (served : throttle.currentMeters.find? dimension = some meter) :
    0 < meter.cost ∧ meter.cost ≤ meter.capacity := by
  have soundMeter := sound dimension meter served
  obtain ⟨limit, stored, -, capacity_eq⟩ := Limit.exists_of_capacityOf? soundMeter.capacity_eq
  rw [soundMeter.cost_eq, ← capacity_eq]
  exact ⟨Nat.lt_of_lt_of_le Nat.zero_lt_one (Nat.le_max_right _ _), affords limit stored⟩

/-- The pairs that a check comes by. -/
def chargedBy (throttle : Throttle) (identity : Identity) (now : Instant) :
    List (String × String) :=
  throttle.stopsOf (.charging now) () identity

/-- A check leaves the buckets that it comes by below their capacities, and others as they are. -/
theorem bucketAt?_satisfy {throttle : Throttle} (sound : throttle.Sound)
    (affords : throttle.Affords) (identity : Identity) (now : Instant) (pair : String × String) :
    (pair ∉ throttle.chargedBy identity now →
        (throttle.satisfy identity now).2.bucketAt? pair.1 pair.2 =
          throttle.bucketAt? pair.1 pair.2) ∧
      (pair ∈ throttle.chargedBy identity now →
        ∃ bucket, (throttle.satisfy identity now).2.bucketAt? pair.1 pair.2 = some bucket ∧
          bucket.isFull = false) := by
  rw [satisfy_eq_visit]
  obtain ⟨passed, stopped⟩ := @bucketAt?_visit _ _ (.charging now) (fun _ => true) () throttle
    identity pair
  refine ⟨passed, fun stop => ?_⟩
  obtain ⟨carried, meter, served, changed, -⟩ := stopped stop
  refine ⟨_, changed, ?_⟩
  have moves := throttle.moves_ensureMeters identity now
  have unpriced cost : Deed.priced cost ∉ throttle.openings identity := by
    intro member
    cases mem_openings member
  have soundMade := moves.sound sound
  obtain ⟨positive, enough⟩ := soundMade.cost_le_capacity (moves.affords unpriced affords) served
  have fits := soundMade.fits_bucketAt? served pair.2
  rw [bucketAt?_ensureMeters] at fits
  exact (Bucket.fits_getD fits now).isFull_take positive enough

/-! ### The stops of resets -/

/-- The pairs that a reset comes by. -/
def filledBy (throttle : Throttle) (identity : Identity) (now : Instant) :
    List (String × String) :=
  match throttle.meters with
  | none => []
  | some meters => stops (.filling now) () identity.pairs meters

theorem mem_of_mem_filledBy {throttle : Throttle} {identity : Identity} {now : Instant}
    {pair : String × String} (stop : pair ∈ throttle.filledBy identity now) :
    pair ∈ identity.pairs := by
  unfold filledBy at stop
  split at stop
  · cases stop
  · exact mem_of_mem_stops stop

/-- A reset fills up the buckets that it comes by, and leaves others as they are. -/
theorem bucketAt?_reset (throttle : Throttle) (identity : Identity) (now : Instant)
    (pair : String × String) :
    (throttle.reset identity now).2.bucketAt? pair.1 pair.2 =
      if pair ∈ throttle.filledBy identity now then
        (throttle.bucketAt? pair.1 pair.2).map fun bucket => bucket.reset now
      else
        throttle.bucketAt? pair.1 pair.2 := by
  cases filed : throttle.meters with
  | none =>
      simp only [filledBy, filed, List.not_mem_nil, if_false, reset]
      split <;> rfl
  | some meters =>
      have made : throttle.meters ≠ none := filed ▸ Option.some_ne_none meters
      have stops_eq : throttle.filledBy identity now =
          throttle.stopsOf (.filling now) () identity := by
        simp only [filledBy, stopsOf, ensureMeters, filed]
      obtain ⟨passed, stopped⟩ := @bucketAt?_visit _ _ (.filling now) id () throttle identity pair
      rw [reset_eq_visit made, stops_eq]
      split
      · next stop =>
          obtain ⟨carried, meter, -, changed, -⟩ := stopped stop
          exact changed
      · next apart => exact passed apart

end Throttle

end LoginThrottle
