import LoginThrottle.Proofs.Throttle.PrefixCharging

/-!
# Refused identities

A throttle refuses an identity that names nothing or a dimension that it does not serve.  It
finds out when it comes to that dimension, in the order of their bytes, and what it did to the
buckets of the dimensions in front of it stays done.

## Main Definitions

* `Throttle.servedFront`: the pairs of an identity in front of the first that is not served
* `Throttle.Refused`: a call is refused and has dealt with the buckets of that front only

## Main Statements

* `Throttle.stops_of_fault`: a walk that fails comes by the front, and by nothing else
* `Throttle.refused_visit`: a visit that fails is refused
* `Throttle.refusals_touch_front`: what checks, questions and resets leave behind if they fail
* `Throttle.refusals_touch_buckets`: they may leave behind something
-/

namespace LoginThrottle

namespace Throttle

variable {Token Answer : Type} {use : Usage Token Answer} {finish : Token → Answer}

/-! ### Walks that fail -/

theorem isSome_find?_walk (token : Token) (pairs : List (String × String)) (meters : Keyed Meter)
    (dimension : String) :
    ((walk use finish token pairs meters).2.find? dimension).isSome =
      (meters.find? dimension).isSome := by
  have same := congrArg (fun bare => (bare.find? dimension).isSome)
    (@bare_walk _ _ use finish token pairs meters)
  simpa only [Keyed.find?_mapValues, Option.isSome_map] using same

/-- A walk that fails comes by the pairs in front of the first that has no meter. -/
theorem stops_of_fault {token : Token} {pairs : List (String × String)} {meters : Keyed Meter}
    {fault : Fault} (failed : (walk use finish token pairs meters).1 = .error fault) :
    (∃ pair ∈ pairs, meters.find? pair.1 = none) ∧
      stops use token pairs meters =
        pairs.takeWhile fun pair => (meters.find? pair.1).isSome := by
  induction pairs generalizing token meters with
  | nil => cases failed
  | cons first rest inductionHypothesis =>
      obtain ⟨dimension, value⟩ := first
      rw [walk] at failed
      rw [stops]
      cases served : meters.find? dimension with
      | none => exact ⟨⟨_, List.mem_cons_self, served⟩, by simp [served]⟩
      | some meter =>
          simp only [served] at failed ⊢
          cases course : (use token meter.bare (meter.buckets.find? value)).1 with
          | ended answer =>
              simp only [course] at failed
              cases failed
          | on next =>
              simp only [course] at failed ⊢
              obtain ⟨⟨pair, member, unserved⟩, visited⟩ := inductionHypothesis failed
              have same name : ((meters.put dimension (meter.withBucket value
                  (use token meter.bare (meter.buckets.find? value)).2)).find? name).isSome =
                    (meters.find? name).isSome := by
                rw [Keyed.find?_put]
                split
                · next here => rw [here, served]; rfl
                · rfl
              refine ⟨⟨pair, List.mem_cons_of_mem _ member, ?_⟩, ?_⟩
              · rw [← Option.not_isSome_iff_eq_none, ← same, unserved]
                exact Bool.false_ne_true
              · simp only [visited, same, List.takeWhile_cons, served, Option.isSome_some, if_true]

/-! ### Visits that fail -/

/-- The pairs of an identity in front of the first whose dimension is not served. -/
def servedFront (throttle : Throttle) (identity : Identity) : List (String × String) :=
  identity.pairs.takeWhile fun pair => decide (pair.1 ∈ throttle.dimensions)

/-- The dimensions served are those that have a meter. -/
theorem decide_mem_dimensions {throttle : Throttle} {meters : Keyed Meter}
    (filed : throttle.meters = some meters) (dimension : String) :
    decide (dimension ∈ throttle.dimensions) = (meters.find? dimension).isSome := by
  rw [Bool.eq_iff_iff, decide_eq_true_iff, mem_dimensions_iff, capacityAt?,
    currentMeters_of_some filed, Ne, Option.map_eq_none_iff, Option.isSome_iff_ne_none]

/-- A walk has meters for the same dimensions as before. -/
theorem decide_mem_dimensions_walk (throttle : Throttle) (token : Token)
    (pairs : List (String × String)) (meters : Keyed Meter) (dimension : String) :
    decide (dimension ∈ (throttle.withMeters (walk use finish token pairs meters)).2.dimensions) =
      (meters.find? dimension).isSome := by
  rw [decide_mem_dimensions rfl, isSome_find?_walk]

/-- Nothing stands in front if nothing is served. -/
theorem servedFront_of_none {throttle : Throttle} (unmade : throttle.meters = none)
    (identity : Identity) : throttle.servedFront identity = [] := by
  have nothing : throttle.dimensions = [] := by
    rw [dimensions, currentMeters_of_none unmade]
    rfl
  rw [servedFront, nothing]
  cases identity.pairs <;> rfl

/-- A call of an identity is refused: it names nothing or a dimension that is not served.  What
is told happened to the buckets in front of that dimension, and nothing to others. -/
structure Refused (before : Throttle) (identity : Identity)
    (told : String × String → Option Bucket → Prop) (after : Throttle) : Prop where
  unserved : identity.isEmpty = true ∨
    ∃ dimension ∈ identity.dimensions, dimension ∉ after.dimensions
  touched : ∀ pair ∈ after.servedFront identity, told pair (after.bucketAt? pair.1 pair.2)
  untouched : ∀ pair, pair ∉ after.servedFront identity →
    after.bucketAt? pair.1 pair.2 = before.bucketAt? pair.1 pair.2

variable {before after : Throttle} {identity : Identity}
  {told : String × String → Option Bucket → Prop}

theorem Refused.imp (refused : before.Refused identity told after)
    {other : String × String → Option Bucket → Prop}
    (implies : ∀ pair held, told pair held → other pair held) :
    before.Refused identity other after where
  unserved := refused.unserved
  touched pair front := implies pair _ (refused.touched pair front)
  untouched := refused.untouched

/-- A throttle without meters refuses everybody and touches nothing. -/
theorem refused_of_none (unmade : after.meters = none) (same : ∀ dimension value,
    after.bucketAt? dimension value = before.bucketAt? dimension value) :
    before.Refused identity told after := by
  have front := servedFront_of_none unmade identity
  refine ⟨?_, ?_, fun pair _ => same pair.1 pair.2⟩
  · cases named : identity.pairs with
    | nil => exact .inl (by rw [Identity.isEmpty, named]; rfl)
    | cons pair rest =>
        refine .inr ⟨pair.1, by simp [Identity.dimensions, named], ?_⟩
        rw [dimensions, currentMeters_of_none unmade]
        exact List.not_mem_nil
  · rw [front]
    exact fun pair member => absurd member List.not_mem_nil

/-- A fetch that fails or finds nothing leaves a throttle without meters. -/
theorem meters_ensureMeters_of_fault {throttle : Throttle} {fault : Fault}
    (failed : (throttle.ensureMeters identity).1 = .error fault) :
    throttle.meters = none ∧ (throttle.ensureMeters identity).2.meters = none := by
  cases made : throttle.meters with
  | some meters =>
      rw [ensureMeters, made] at failed
      cases failed
  | none =>
      refine ⟨rfl, ?_⟩
      revert failed
      rw [ensureMeters, made]
      simp only [LimitStore.fetch]
      rcases throttle.store.answer identity.dimensions with fault | _ | ⟨limit, limits⟩
      · exact fun _ => rfl
      · exact fun _ => rfl
      · intro failed
        cases failed

theorem meters_visit_of_fault {throttle : Throttle} {fault : Fault}
    (failed : (throttle.ensureMeters identity).1 = .error fault) (token : Token) :
    (throttle.visit use finish token identity).2.meters = none := by
  obtain ⟨unmade, stays⟩ := meters_ensureMeters_of_fault failed
  rw [visit]
  split
  · exact unmade
  · split
    · next between ensured => rwa [ensured] at stays
    · next ensured =>
        rw [ensured] at failed
        cases failed

theorem reset_eq_self {throttle : Throttle} (unmade : throttle.meters = none)
    (now : Instant) : (throttle.reset identity now).2 = throttle := by
  rw [reset, unmade]
  split <;> rfl

/-- A visit that fails is refused, and the walk goes on behind each bucket that it used. -/
theorem refused_visit {token : Token} {throttle : Throttle} {fault : Fault}
    (failed : (throttle.visit use finish token identity).1 = .error fault) :
    throttle.Refused identity
      (fun pair held => ∃ carried meter next,
        (throttle.ensureMeters identity).2.currentMeters.find? pair.1 = some meter ∧
          use carried meter.bare (throttle.bucketAt? pair.1 pair.2) = (.on next, held))
      (throttle.visit use finish token identity).2 := by
  cases empty : identity.isEmpty with
  | true =>
      have nobody : identity.pairs = [] := List.isEmpty_iff.1 empty
      rw [visit, if_pos empty]
      refine ⟨.inl empty, fun pair front => ?_, fun _ _ => rfl⟩
      rw [servedFront, nobody] at front
      cases front
  | false =>
      obtain ⟨between, -, ⟨fault, fetchless⟩ | ⟨meters, filed, ensured⟩⟩ :=
        throttle.ensureMeters_cases identity .origin
      · have stays : (throttle.visit use finish token identity).2 =
            (throttle.ensureMeters identity).2 := by
          rw [visit, empty, fetchless]
          rfl
        rw [stays]
        exact refused_of_none
          (meters_ensureMeters_of_fault (congrArg Prod.fst fetchless)).2
          (throttle.bucketAt?_ensureMeters identity)
      · have walked : throttle.visit use finish token identity =
            between.withMeters (walk use finish token identity.pairs meters) := by
          rw [visit, empty, ensured]
          rfl
        have visited := @bucketAt?_visit _ _ use finish token throttle identity
        rw [walked] at failed visited ⊢
        obtain ⟨⟨pair, named, unserved⟩, stops_eq⟩ := stops_of_fault failed
        have front : (between.withMeters
            (walk use finish token identity.pairs meters)).2.servedFront identity =
              throttle.stopsOf use token identity := by
          simp only [servedFront, stopsOf, ensured, stops_eq, decide_mem_dimensions_walk]
        refine ⟨.inr ⟨pair.1, List.mem_map_of_mem named, ?_⟩, fun pair stop => ?_,
          fun pair apart => (visited pair).1 (front ▸ apart)⟩
        · refine of_decide_eq_false ?_
          rw [decide_mem_dimensions_walk, unserved, Option.isSome_none]
        · obtain ⟨carried, meter, served, changed, goesOn⟩ := (visited pair).2 (front ▸ stop)
          obtain ⟨next, course⟩ := goesOn fault failed
          exact ⟨carried, meter, next, served, Prod.ext course changed.symm⟩

/-! ### Checks, questions and resets that fail -/

theorem Sound.ensureMeters {throttle : Throttle} (sound : throttle.Sound) (identity : Identity) :
    (throttle.ensureMeters identity).2.Sound :=
  (throttle.moves_ensureMeters identity .origin).sound sound

theorem cost_ensureMeters (throttle : Throttle) (identity : Identity) :
    (throttle.ensureMeters identity).2.cost = throttle.cost := by
  refine (throttle.moves_ensureMeters identity .origin).cost_eq fun _ member => ?_
  cases mem_openings member

/-- A check that fails has charged the front. -/
theorem refused_satisfy {throttle : Throttle} (sound : throttle.Sound) {now : Instant}
    {fault : Fault} (failed : (throttle.satisfy identity now).1 = .error fault) :
    throttle.Refused identity
      (fun pair held =>
        max throttle.cost 1 ≤ ((throttle.ensureMeters identity).2.refilledAt now pair).tokens ∧
          held = some (((throttle.ensureMeters identity).2.refilledAt now pair).withdraw
            (max throttle.cost 1)))
      (throttle.satisfy identity now).2 := by
  rw [satisfy_eq_visit] at failed ⊢
  refine (refused_visit failed).imp ?_
  rintro pair held ⟨carried, meter, next, served, used⟩
  rw [← throttle.bucketAt?_ensureMeters identity,
    (sound.ensureMeters identity).charging_eq served, cost_ensureMeters] at used
  split at used
  · next able => exact ⟨able, (congrArg Prod.snd used).symm⟩
  · -- A bucket that cannot pay ends the walk.
    cases used

/-- A question that fails has refilled the front. -/
theorem refused_allowed {throttle : Throttle} (sound : throttle.Sound) {now : Instant}
    {fault : Fault} (failed : (throttle.allowed identity now).1 = .error fault) :
    throttle.Refused identity
      (fun pair held => held = some ((throttle.ensureMeters identity).2.refilledAt now pair))
      (throttle.allowed identity now).2 := by
  rw [allowed_eq_visit] at failed ⊢
  refine (refused_visit failed).imp ?_
  rintro pair held ⟨carried, meter, next, served, used⟩
  rw [← (sound.ensureMeters identity).refill_getD served, bucketAt?_ensureMeters]
  exact (congrArg Prod.snd used).symm

/-- A reset that fails has filled up the front. -/
theorem refused_reset {throttle : Throttle} {now : Instant} {fault : Fault}
    (failed : (throttle.reset identity now).1 = .error fault) :
    throttle.Refused identity
      (fun pair held =>
        held = (throttle.bucketAt? pair.1 pair.2).map fun bucket => bucket.reset now)
      (throttle.reset identity now).2 := by
  cases made : throttle.meters with
  | none =>
      rw [reset_eq_self made]
      exact refused_of_none made fun _ _ => rfl
  | some meters =>
      rw [reset_eq_visit (made ▸ Option.some_ne_none meters)] at failed ⊢
      refine (refused_visit failed).imp ?_
      rintro pair held ⟨carried, meter, next, -, used⟩
      exact (congrArg Prod.snd used).symm

/-! ### What refusals leave behind -/

/-- Nothing stands in front of a first dimension that is not served. -/
theorem servedFront_of_first (identity : Identity) {throttle : Throttle}
    (first : ∀ pair ∈ identity.pairs.head?, pair.1 ∉ throttle.dimensions) :
    throttle.servedFront identity = [] := by
  rw [servedFront]
  cases named : identity.pairs with
  | nil => rfl
  | cons pair rest =>
      have unserved := first pair (by rw [named]; exact rfl)
      rw [List.takeWhile_cons, decide_eq_false unserved]
      rfl

/-- **A refusal touches the front, and nothing else.**  If a check, a question or a reset fails,
its identity names nothing or a dimension that is not served even then, and of the buckets it
has dealt with those in front of the first such dimension.  A check has charged them, and each
could pay.  A question has refilled them, and made those that were missing.  A reset has filled
up those that were there.  So nothing happened if the first dimension is not served, and in
particular if none is, as after a fetch that failed and for a reset that comes too early. -/
theorem refusals_touch_front {throttle : Throttle} (reachable : throttle.Reachable)
    (identity : Identity) (now : Instant) :
    let cost := max throttle.cost 1
    let refilled := (throttle.ensureMeters identity).2.refilledAt now
    (∀ fault, (throttle.satisfy identity now).1 = .error fault →
      throttle.Refused identity
        (fun pair held =>
          cost ≤ (refilled pair).tokens ∧ held = some ((refilled pair).withdraw cost))
        (throttle.satisfy identity now).2) ∧
    (∀ fault, (throttle.allowed identity now).1 = .error fault →
      throttle.Refused identity (fun pair held => held = some (refilled pair))
        (throttle.allowed identity now).2) ∧
    (∀ fault, (throttle.reset identity now).1 = .error fault →
      throttle.Refused identity
        (fun pair held =>
          held = (throttle.bucketAt? pair.1 pair.2).map fun bucket => bucket.reset now)
        (throttle.reset identity now).2) ∧
    (∀ after : Throttle,
      (after.meters = none ∨ ∀ pair ∈ identity.pairs.head?, pair.1 ∉ after.dimensions) →
        after.servedFront identity = []) ∧
    (∀ fault, (throttle.ensureMeters identity).1 = .error fault →
      (throttle.satisfy identity now).2.meters = none ∧
        (throttle.allowed identity now).2.meters = none) ∧
    (throttle.meters = none → (throttle.reset identity now).2.meters = none) := by
  have sound := reachable.sound
  refine ⟨fun _ failed => refused_satisfy sound failed,
    fun _ failed => refused_allowed sound failed, fun _ failed => refused_reset failed,
    ?_, fun fault fetchless => ?_, fun unmade => ?_⟩
  · rintro after (unmade | first)
    · exact servedFront_of_none unmade identity
    · exact servedFront_of_first identity first
  · rw [satisfy_eq_visit, allowed_eq_visit]
    exact ⟨meters_visit_of_fault fetchless (), meters_visit_of_fault fetchless largestCount⟩
  · rwa [reset_eq_self unmade]

/-- A station that counts attempts by login, three for each, at which one was made. -/
def loginsOnly : Station :=
  Station.run (.new ⟨.new .never, .new (.reliable [.plain "login" 3]) ⟨1, ⟨5⟩⟩⟩)
    [.check .throttle (.ofPairs [("login", "root")])]

/-- A check that names a zone as well fails, and it has taken the second of three attempts. -/
theorem loginsOnly_charges :
    let throttle := loginsOnly.guard.throttle
    let attempt := Identity.ofPairs [("zone", "x"), ("login", "root")]
    throttle.Reachable ∧ (throttle.satisfy attempt .origin).1 = .error .incorrectIdentity ∧
      (throttle.satisfy attempt .origin).2.bucketAt? "login" "root" =
        some ⟨3, ⟨1, ⟨5⟩⟩, 1, .origin⟩ := by
  intro throttle attempt
  have reachable : throttle.Reachable := ⟨_, _, rfl, rfl⟩
  have failed : (throttle.satisfy attempt .origin).1 = .error .incorrectIdentity := by
    decide +kernel
  have refused := (refusals_touch_front reachable attempt .origin).1 _ failed
  have front : ("login", "root") ∈ (throttle.satisfy attempt .origin).2.servedFront attempt := by
    decide +kernel
  refine ⟨reachable, failed, (refused.touched _ front).2.trans ?_⟩
  decide +kernel

/-- **A refusal may touch buckets.**  A check that fails may charge a bucket, a question that
fails may make one, and a reset that fails may fill one up. -/
theorem refusals_touch_buckets :
    let throttle := loginsOnly.guard.throttle
    let attempt := Identity.ofPairs [("zone", "x"), ("login", "root")]
    let newcomer := Identity.ofPairs [("zone", "x"), ("login", "guest")]
    throttle.Reachable ∧
      ((throttle.satisfy attempt .origin).1 = .error .incorrectIdentity ∧
        (throttle.bucketAt? "login" "root").map Bucket.tokens = some 2 ∧
        ((throttle.satisfy attempt .origin).2.bucketAt? "login" "root").map Bucket.tokens =
          some 1) ∧
      ((throttle.allowed newcomer .origin).1 = .error .incorrectIdentity ∧
        throttle.bucketAt? "login" "guest" = none ∧
        (throttle.allowed newcomer .origin).2.bucketAt? "login" "guest" ≠ none) ∧
      ((throttle.reset attempt .origin).1 = .error .incorrectIdentity ∧
        ((throttle.reset attempt .origin).2.bucketAt? "login" "root").map Bucket.tokens =
          some 3) := by
  intro throttle attempt newcomer
  refine ⟨⟨_, _, rfl, rfl⟩, ?_, ?_, ?_⟩ <;> decide +kernel

end Throttle

end LoginThrottle
