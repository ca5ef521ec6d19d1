import LoginThrottle.Proofs.Throttle.Walk

/-!
# Throttles that look alike

A view is a part of the buckets of a throttle, perhaps under other values.  Two throttles that
look alike in a view answer alike to every identity whose values are in view, and they go on
looking alike whatever happens to buckets out of view.

## Main Definitions

* `View`: which values of a dimension are seen, and how they are renamed
* `View.Meters`, `Throttle.Shows`: what the first side has in view the second has, renamed
* `Identity.rename`: the identity with other values

## Main Statements

* `Throttle.Shows.visit`: an identity in view is served alike
* `Throttle.Shows.visit_unseen`: an identity out of view is not noticed on the other side
* `Throttle.Shows.sweep`, `Throttle.Shows.sweepTimes`: sweeps take the same away from the view

## Design Notes

Two values in view must not be renamed to one, for they would share a bucket then.  Out of view
the second side may have any buckets at all.
-/

namespace LoginThrottle

/-- A part of the values of each dimension, and the name of each value in it on another side. -/
structure View where
  sees : String → String → Bool
  rename : String → String → String
  rename_inj : ∀ {dimension value other}, sees dimension value = true →
    sees dimension other = true → rename dimension value = rename dimension other → value = other

/-- The identity with other values. -/
def Identity.rename (rename : String → String → String) (identity : Identity) : Identity where
  pairs := identity.pairs.map fun pair => (pair.1, rename pair.1 pair.2)
  sorted := List.pairwise_map.2 identity.sorted

namespace Identity

variable (rename : String → String → String) (identity : Identity)

@[simp] theorem dimensions_rename : (identity.rename rename).dimensions = identity.dimensions := by
  simp only [dimensions, Identity.rename, List.map_map, Function.comp_def]

@[simp] theorem isEmpty_rename : (identity.rename rename).isEmpty = identity.isEmpty := by
  simp only [isEmpty, Identity.rename, List.isEmpty_map]

end Identity

namespace View

variable (view : View)

/-- Every value that an identity names is in view. -/
def SeesAll (identity : Identity) : Prop :=
  ∀ pair ∈ identity.pairs, view.sees pair.1 pair.2 = true

/-- No value that an identity names is in view. -/
def SeesNone (identity : Identity) : Prop :=
  ∀ pair ∈ identity.pairs, view.sees pair.1 pair.2 = false

/-- The meters are the same but for their buckets, and every bucket in view is on the second
side, too. -/
structure Meters (first second : Keyed Meter) : Prop where
  bare_eq : second.mapValues Meter.bare = first.mapValues Meter.bare
  bucketIn?_eq : ∀ {dimension value}, view.sees dimension value = true →
    Throttle.bucketIn? second dimension (view.rename dimension value) =
      Throttle.bucketIn? first dimension value

namespace Meters

variable {view} {first second : Keyed Meter} {dimension value : String} {meter other : Meter}

/-- Both sides have a meter for a dimension, or neither has. -/
theorem find?_cases (shows : view.Meters first second) (dimension : String) :
    (first.find? dimension = none ∧ second.find? dimension = none) ∨
      ∃ meter other, first.find? dimension = some meter ∧ second.find? dimension = some other ∧
        other.bare = meter.bare := by
  have bares := congrArg (fun meters => meters.find? dimension) shows.bare_eq
  simp only [Keyed.find?_mapValues] at bares
  cases served : first.find? dimension with
  | none =>
      rw [served, Option.map_none, Option.map_eq_none_iff] at bares
      exact .inl ⟨rfl, bares⟩
  | some meter =>
      rw [served, Option.map_some, Option.map_eq_some_iff] at bares
      obtain ⟨other, servedToo, same⟩ := bares
      exact .inr ⟨meter, other, rfl, servedToo, same⟩

/-- Both meters of a dimension have the same bucket of a value in view. -/
theorem find?_rename (shows : view.Meters first second)
    (served : first.find? dimension = some meter) (servedToo : second.find? dimension = some other)
    (seen : view.sees dimension value = true) :
    other.buckets.find? (view.rename dimension value) = meter.buckets.find? value := by
  have same := shows.bucketIn?_eq seen
  rwa [Throttle.bucketIn?, Throttle.bucketIn?, served, servedToo] at same

/-- The bucket of a value in view may be exchanged on both sides. -/
theorem put (shows : view.Meters first second)
    (served : first.find? dimension = some meter) (servedToo : second.find? dimension = some other)
    (seen : view.sees dimension value = true) (held : Option Bucket) :
    view.Meters (first.put dimension (meter.withBucket value held))
      (second.put dimension (other.withBucket (view.rename dimension value) held)) where
  bare_eq := by
    rw [Throttle.bare_put served (meter.bare_withBucket _ _),
      Throttle.bare_put servedToo (other.bare_withBucket _ _)]
    exact shows.bare_eq
  bucketIn?_eq := by
    intro name text seenToo
    rw [Throttle.bucketIn?_put served, Throttle.bucketIn?_put servedToo]
    by_cases here : (name, text) = (dimension, value)
    · obtain ⟨rfl, rfl⟩ := Prod.mk.inj here
      rw [if_pos rfl, if_pos rfl]
    · -- Another value in view has another name on the second side.
      have elsewhere : ¬ (name, view.rename name text) =
          (dimension, view.rename dimension value) := by
        intro same
        obtain ⟨rfl, renamed⟩ := Prod.mk.inj same
        exact here (congrArg _ (view.rename_inj seenToo seen renamed))
      rw [if_neg here, if_neg elsewhere]
      exact shows.bucketIn?_eq seenToo

/-- The bucket of a value out of view may be exchanged on the first side. -/
theorem put_unseen (shows : view.Meters first second)
    (served : first.find? dimension = some meter) (unseen : view.sees dimension value = false)
    (held : Option Bucket) :
    view.Meters (first.put dimension (meter.withBucket value held)) second where
  bare_eq := by
    rw [Throttle.bare_put served (meter.bare_withBucket _ _)]
    exact shows.bare_eq
  bucketIn?_eq := by
    intro name text seen
    have elsewhere : ¬ (name, text) = (dimension, value) := by
      intro same
      obtain ⟨rfl, rfl⟩ := Prod.mk.inj same
      rw [seen] at unseen
      cases unseen
    rw [Throttle.bucketIn?_put served, if_neg elsewhere]
    exact shows.bucketIn?_eq seen

variable {Token Answer : Type} {use : Usage Token Answer} {finish : Token → Answer}

/-- A walk along pairs in view takes the same course on both sides. -/
theorem walk (shows : view.Meters first second) (token : Token) {pairs : List (String × String)}
    (seen : ∀ pair ∈ pairs, view.sees pair.1 pair.2 = true) :
    Corresponds view.Meters (Throttle.walk use finish token pairs first)
      (Throttle.walk use finish token
        (pairs.map fun pair => (pair.1, view.rename pair.1 pair.2)) second) := by
  induction pairs generalizing token first second with
  | nil => exact ⟨rfl, shows⟩
  | cons pair rest inductionHypothesis =>
      obtain ⟨dimension, value⟩ := pair
      have here : view.sees dimension value = true := seen _ List.mem_cons_self
      have seenLater pair member := seen pair (List.mem_cons_of_mem (dimension, value) member)
      rw [List.map_cons, Throttle.walk, Throttle.walk]
      rcases shows.find?_cases dimension with ⟨served, servedToo⟩ | ⟨meter, other, served,
        servedToo, bare_eq⟩
      · rw [served, servedToo]
        exact ⟨rfl, shows⟩
      · simp only [served, servedToo]
        rw [bare_eq, shows.find?_rename served servedToo here]
        obtain ⟨course, held⟩ := use token meter.bare (meter.buckets.find? value)
        have after := shows.put served servedToo here held
        cases course with
        | ended answer => exact ⟨rfl, after⟩
        | on next => exact inductionHypothesis after next seenLater

/-- A walk along pairs out of view is not noticed on the second side. -/
theorem walk_unseen (shows : view.Meters first second) (token : Token)
    {pairs : List (String × String)} (unseen : ∀ pair ∈ pairs, view.sees pair.1 pair.2 = false) :
    view.Meters (Throttle.walk use finish token pairs first).2 second := by
  induction pairs generalizing token first with
  | nil => exact shows
  | cons pair rest inductionHypothesis =>
      obtain ⟨dimension, value⟩ := pair
      have here : view.sees dimension value = false := unseen _ List.mem_cons_self
      have unseenLater pair member := unseen pair (List.mem_cons_of_mem (dimension, value) member)
      rw [Throttle.walk]
      cases served : first.find? dimension with
      | none => exact shows
      | some meter =>
          simp only
          obtain ⟨course, held⟩ := use token meter.bare (meter.buckets.find? value)
          have after := shows.put_unseen served here held
          cases course with
          | ended answer => exact after
          | on next => exact inductionHypothesis after next unseenLater

end Meters

end View

/-! ### Throttles -/

namespace Throttle

/-- The throttles are the same but for their buckets, and every bucket in view is on the second
side, too. -/
structure Shows (view : View) (first second : Throttle) : Prop where
  bare_eq : second.bare = first.bare
  bucketAt?_eq : ∀ {dimension value}, view.sees dimension value = true →
    second.bucketAt? dimension (view.rename dimension value) = first.bucketAt? dimension value

namespace Shows

variable {view : View} {first second : Throttle} {meters : Keyed Meter} {identity : Identity}

theorem store_eq (shows : Shows view first second) : second.store = first.store :=
  congrArg (fun throttle => throttle.store) shows.bare_eq

theorem rate_eq (shows : Shows view first second) : second.rate = first.rate :=
  congrArg (fun throttle => throttle.rate) shows.bare_eq

theorem cost_eq (shows : Shows view first second) : second.cost = first.cost :=
  congrArg (fun throttle => throttle.cost) shows.bare_eq

theorem meters_bare_eq (shows : Shows view first second) :
    second.meters.map (fun meters => meters.mapValues Meter.bare) =
      first.meters.map fun meters => meters.mapValues Meter.bare :=
  congrArg (fun throttle => throttle.meters) shows.bare_eq

theorem unmade (shows : Shows view first second) (missing : first.meters = none) :
    second.meters = none := by
  have bares := shows.meters_bare_eq
  rwa [missing, Option.map_none, Option.map_eq_none_iff] at bares

/-- If the meters are made on one side they are on the other. -/
theorem exists_meters (shows : Shows view first second) (filed : first.meters = some meters) :
    ∃ others, second.meters = some others ∧ view.Meters meters others := by
  have bares := shows.meters_bare_eq
  rw [filed, Option.map_some, Option.map_eq_some_iff] at bares
  obtain ⟨others, filedToo, same⟩ := bares
  refine ⟨others, filedToo, same, ?_⟩
  intro dimension value seen
  have found := shows.bucketAt?_eq seen
  rwa [bucketAt?, bucketAt?, currentMeters_of_some filed, currentMeters_of_some filedToo] at found

/-- Both sides may file meters that look alike. -/
theorem file (shows : Shows view first second) {others : Keyed Meter}
    (same : view.Meters meters others) :
    Shows view { first with meters := some meters } { second with meters := some others } where
  bare_eq := by
    simp only [bare, Option.map_some, same.bare_eq, shows.store_eq, shows.rate_eq, shows.cost_eq]
  bucketAt?_eq := same.bucketIn?_eq

theorem withMeters {Answer : Type} (shows : Shows view first second)
    {one other : Except Fault Answer × Keyed Meter} (same : Corresponds view.Meters one other) :
    Corresponds (Shows view) (first.withMeters one) (second.withMeters other) :=
  ⟨same.answer, shows.file same.state⟩

/-! #### Visits -/

theorem fetch (shows : Shows view first second) :
    Shows view { first with store := first.store.counted }
      { second with store := second.store.counted } where
  bare_eq := by
    simp only [bare, shows.meters_bare_eq, shows.store_eq, shows.rate_eq, shows.cost_eq]
  bucketAt?_eq := shows.bucketAt?_eq

/-- Meters that were just made have no buckets. -/
theorem meters_metersOf (view : View) (rate : RefillRate) (cost : Nat) (limits : List Limit) :
    view.Meters (metersOf rate cost limits) (metersOf rate cost limits) := by
  have empty (dimension value : String) :
      bucketIn? (metersOf rate cost limits) dimension value = none := by
    rw [bucketIn?, find?_metersOf]
    cases Limit.capacityOf? limits dimension <;> rfl
  refine ⟨rfl, ?_⟩
  intro dimension value _
  rw [empty, empty]

/-- Both sides come to meters that look alike, or both to one fault. -/
theorem ensureMeters (shows : Shows view first second) {other : Identity}
    (dimensions_eq : other.dimensions = identity.dimensions) :
    (∃ fault left right, first.ensureMeters identity = (.error fault, left) ∧
        second.ensureMeters other = (.error fault, right) ∧ Shows view left right) ∨
      ∃ meters others left right, first.ensureMeters identity = (.ok meters, left) ∧
        second.ensureMeters other = (.ok others, right) ∧ view.Meters meters others ∧
        Shows view left right := by
  cases filed : first.meters with
  | some meters =>
      obtain ⟨others, filedToo, same⟩ := shows.exists_meters filed
      rw [Throttle.ensureMeters, Throttle.ensureMeters, filed, filedToo]
      exact .inr ⟨meters, others, first, second, rfl, rfl, same, shows⟩
  | none =>
      have fetched := shows.fetch
      rw [Throttle.ensureMeters, Throttle.ensureMeters, filed, shows.unmade filed]
      simp only [LimitStore.fetch, dimensions_eq, shows.store_eq]
      rw [shows.store_eq, filed, shows.unmade filed] at fetched
      rcases first.store.answer identity.dimensions with fault | _ | ⟨limit, limits⟩
      · exact .inl ⟨fault, _, _, rfl, rfl, fetched⟩
      · exact .inl ⟨.noLimitsFound, _, _, rfl, rfl, fetched⟩
      · have same := meters_metersOf view first.rate first.cost (limit :: limits)
        refine .inr ⟨_, _, _, _, rfl, rfl, ?_, ?_⟩
        · simpa only [shows.rate_eq, shows.cost_eq] using same
        · simpa only [shows.rate_eq, shows.cost_eq] using fetched.file same

variable {Token Answer : Type} {use : Usage Token Answer} {finish : Token → Answer}

/-- An identity in view is served alike on both sides. -/
theorem visit (shows : Shows view first second) (token : Token) (seen : view.SeesAll identity) :
    Corresponds (Shows view) (first.visit use finish token identity)
      (second.visit use finish token (identity.rename view.rename)) := by
  rw [Throttle.visit, Throttle.visit, Identity.isEmpty_rename]
  split
  · exact ⟨rfl, shows⟩
  · rcases shows.ensureMeters (identity.dimensions_rename view.rename) with
      ⟨fault, left, right, failed, failedToo, showsAfter⟩ |
      ⟨meters, others, left, right, ensured, ensuredToo, same, showsAfter⟩
    · rw [failed, failedToo]
      exact ⟨rfl, showsAfter⟩
    · rw [ensured, ensuredToo]
      exact showsAfter.withMeters (same.walk token seen)

/-- Once the meters are made, an identity out of view is not noticed on the other side. -/
theorem visit_unseen (shows : Shows view first second) (made : first.meters ≠ none)
    (token : Token) (unseen : view.SeesNone identity) :
    Shows view (first.visit use finish token identity).2 second := by
  obtain ⟨meters, filed⟩ := Option.ne_none_iff_exists'.1 made
  obtain ⟨others, filedToo, same⟩ := shows.exists_meters filed
  simp only [Throttle.visit, Throttle.ensureMeters, filed]
  split
  · exact shows
  · have sameAfter : view.Meters (walk use finish token identity.pairs meters).2 others :=
      same.walk_unseen token unseen
    have after := shows.file sameAfter
    rwa [self_eq filedToo] at after

/-! #### The operations -/

theorem satisfy (shows : Shows view first second) (seen : view.SeesAll identity) (now : Instant) :
    Corresponds (Shows view) (first.satisfy identity now)
      (second.satisfy (identity.rename view.rename) now) := by
  rw [satisfy_eq_visit, satisfy_eq_visit]
  exact shows.visit () seen

theorem allowed (shows : Shows view first second) (seen : view.SeesAll identity) (now : Instant) :
    Corresponds (Shows view) (first.allowed identity now)
      (second.allowed (identity.rename view.rename) now) := by
  rw [allowed_eq_visit, allowed_eq_visit]
  exact shows.visit largestCount seen

theorem reset (shows : Shows view first second) (seen : view.SeesAll identity) (now : Instant) :
    Corresponds (Shows view) (first.reset identity now)
      (second.reset (identity.rename view.rename) now) := by
  cases filed : first.meters with
  | none =>
      rw [Throttle.reset, Throttle.reset, filed, shows.unmade filed, Identity.isEmpty_rename]
      split <;> exact ⟨rfl, shows⟩
  | some meters =>
      obtain ⟨others, filedToo, -⟩ := shows.exists_meters filed
      rw [reset_eq_visit (by rw [filed]; exact Option.some_ne_none _),
        reset_eq_visit (by rw [filedToo]; exact Option.some_ne_none _)]
      exact shows.visit () seen

theorem setCost (shows : Shows view first second) (cost : Nat) :
    Shows view (first.setCost cost) (second.setCost cost) := by
  have priced (throttle : Throttle) : (throttle.setCost cost).bare =
      throttle.bare.setCost cost := by
    simp only [bare, Throttle.setCost, Option.map_map, Function.comp_def,
      Keyed.mapValues_mapValues]
    rfl
  have buckets (throttle : Throttle) (dimension value : String) :
      (throttle.setCost cost).bucketAt? dimension value =
        throttle.bucketAt? dimension value := by
    rw [bucketAt?, bucketAt?, find?_setCost, Option.bind_map]
    rfl
  refine ⟨?_, ?_⟩
  · rw [priced, priced, shows.bare_eq]
  · intro dimension value seen
    rw [buckets, buckets, shows.bucketAt?_eq seen]

/-- What has expired may be lost on both sides. -/
theorem lost (shows : Shows view first second) {ttl : Duration} {now : Instant}
    {left right : Throttle} (lost : Lost (first.expiredPairs ttl now) first left)
    (lostToo : Lost (second.expiredPairs ttl now) second right) : Shows view left right where
  bare_eq := by rw [lost.bare_eq, lostToo.bare_eq, shows.bare_eq]
  bucketAt?_eq := by
    intro dimension value seen
    rw [lost.bucketAt?_filter, lostToo.bucketAt?_filter, shows.bucketAt?_eq seen]

/-- Sweeps whose deletions do not fail take the same away from the view. -/
theorem sweep (shows : Shows view first second) (named : first.ServesNamed) (ttl : Duration)
    (now : Instant) :
    Shows view (first.sweep ttl now 0).state (second.sweep ttl now 0).state := by
  obtain ⟨left, swept, lost⟩ := sweep_eq named ttl now
  obtain ⟨right, sweptToo, lostToo⟩ :=
    sweep_eq (servesNamed_of_bare_eq shows.bare_eq named) ttl now
  rw [swept, sweptToo]
  exact shows.lost lost lostToo

end Shows

end Throttle

/-! ### Housekeepers -/

namespace Throttle.Shows

variable {view : View} {first second : Throttle}

/-- So do the sweeps of a housekeeper, which is the same on both sides afterwards. -/
theorem sweepTimes (shows : Shows view first second) (named : first.ServesNamed) (now : Instant)
    (count : Nat) (keeper : Housekeeper) (sure : keeper.failures = 0) :
    (Housekeeper.sweepTimes now count keeper second).2.1 =
        (Housekeeper.sweepTimes now count keeper first).2.1 ∧
      Shows view (Housekeeper.sweepTimes now count keeper first).2.2
        (Housekeeper.sweepTimes now count keeper second).2.2 := by
  induction count generalizing keeper first second with
  | zero => exact ⟨rfl, shows⟩
  | succ more inductionHypothesis =>
      obtain ⟨left, swept, lost⟩ := Housekeeper.sweepOnce_eq sure named now
      obtain ⟨right, sweptToo, lostToo⟩ :=
        Housekeeper.sweepOnce_eq sure (servesNamed_of_bare_eq shows.bare_eq named) now
      rw [Housekeeper.sweepTimes, Housekeeper.sweepTimes, swept, sweptToo]
      exact inductionHypothesis (shows.lost lost lostToo)
        (servesNamed_of_bare_eq lost.bare_eq named) _ sure

end Throttle.Shows

end LoginThrottle
