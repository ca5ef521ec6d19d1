import LoginThrottle.Proofs.Throttle.Unswept
import Mathlib.Data.List.Nodup
import Mathlib.Data.List.Perm.Subperm

/-!
# What a sweep takes away

A throttle whose dimensions have proper names has a key of its own for every bucket.  So a
sweep whose deletions do not fail comes to its end, and it takes away the buckets that are full
and were idle for long enough, and nothing else.

## Main Definitions

* `Meter.bare`, `Throttle.bare`: a meter and a throttle without their buckets
* `Throttle.filings`: the buckets of a throttle with their dimensions and values
* `Throttle.Lost`: a throttle has lost the buckets of some values and nothing else
* `Throttle.without`: the throttle without the buckets of some values

## Main Statements

* `Throttle.mem_filings_iff`, `Throttle.nodup_filings`: each live bucket is filed once
* `Throttle.bucketCount_le_of_live`: what stays alive is not fewer
* `Throttle.evict_eq_without`: the closed form of an eviction
* `Throttle.run_eq_without`, `Throttle.run_eq_of_perm`: the outcome of a sweep that comes by the
  buckets in some order
* `Throttle.sweep_eq`: the outcome of a sweep in the order of filing
-/

namespace LoginThrottle

/-! ### Throttles without their buckets -/

/-- The meter without its buckets. -/
def Meter.bare (meter : Meter) : Meter :=
  { meter with buckets := Keyed.empty }

@[simp] theorem Meter.bare_withBucket (meter : Meter) (value : String) (held : Option Bucket) :
    (meter.withBucket value held).bare = meter.bare := by
  cases held <;> rfl

namespace Throttle

/-- The throttle without its buckets. -/
def bare (throttle : Throttle) : Throttle :=
  { throttle with meters := throttle.meters.map fun meters => meters.mapValues Meter.bare }

variable {throttle first second third : Throttle} {dimension : String} {meter : Meter}

theorem currentMeters_bare (throttle : Throttle) :
    throttle.bare.currentMeters = throttle.currentMeters.mapValues Meter.bare := by
  cases made : throttle.meters with
  | none =>
      rw [currentMeters, currentMeters, bare, made]
      rfl
  | some meters => rw [currentMeters, currentMeters, bare, made, Option.map_some,
      Option.getD_some, Option.getD_some]

theorem bare_withMeter (served : throttle.currentMeters.find? dimension = some meter)
    {changed : Meter} (bare_eq : changed.bare = meter.bare) :
    (throttle.withMeter dimension changed).bare = throttle.bare := by
  cases made : throttle.meters with
  | none =>
      rw [currentMeters_of_none made] at served
      cases served
  | some meters =>
      rw [currentMeters_of_some made] at served
      have kept : (meters.mapValues Meter.bare).put dimension changed.bare =
          meters.mapValues Meter.bare :=
        Keyed.put_of_find? (by rw [Keyed.find?_mapValues, served, bare_eq, Option.map_some])
      rw [withMeter_eq made, bare, bare, Option.map_some, Keyed.mapValues_put, kept, made,
        Option.map_some]

theorem dimensions_of_bare_eq (bare_eq : second.bare = first.bare) :
    second.dimensions = first.dimensions := by
  have same := congrArg (fun throttle => throttle.currentMeters.keys) bare_eq
  simp only [currentMeters_bare, Keyed.keys_mapValues] at same
  exact same

/-- Without their buckets, meters that are not there are still not there. -/
theorem made_of_bare_eq (bare_eq : second.bare = first.bare) (made : first.meters ≠ none) :
    second.meters ≠ none := by
  intro unmade
  have same := congrArg (fun throttle => throttle.meters) bare_eq
  simp only [bare, unmade, Option.map_none] at same
  exact made (Option.map_eq_none_iff.1 same.symm)

theorem exists_meter_of_mem (member : dimension ∈ throttle.dimensions) :
    ∃ meter, throttle.currentMeters.find? dimension = some meter := by
  rw [mem_dimensions_iff, capacityAt?, Ne, Option.map_eq_none_iff] at member
  exact Option.ne_none_iff_exists'.1 member

theorem Sound.servesNamed (sound : throttle.Sound) (named : throttle.Named) :
    throttle.ServesNamed := by
  intro dimension member
  obtain ⟨meter, served⟩ := exists_meter_of_mem member
  exact sound.isDimensionName named served

theorem servesNamed_of_bare_eq (bare_eq : second.bare = first.bare) (named : first.ServesNamed) :
    second.ServesNamed := by
  intro dimension member
  rw [dimensions_of_bare_eq bare_eq] at member
  exact named dimension member

theorem mem_dimensions_of_find? (served : throttle.currentMeters.find? dimension = some meter) :
    dimension ∈ throttle.dimensions := by
  rw [mem_dimensions_iff, capacityAt?, served]
  exact Option.some_ne_none _

/-- A bucket is in a meter that is served. -/
theorem exists_meter_of_bucketAt? {value : String} {bucket : Bucket}
    (found : throttle.bucketAt? dimension value = some bucket) :
    ∃ meter, throttle.currentMeters.find? dimension = some meter ∧
      meter.buckets.find? value = some bucket :=
  Option.bind_eq_some_iff.1 found

/-! ### Buckets with their dimensions and values -/

/-- The buckets of a throttle with their dimensions and values. -/
def filings (throttle : Throttle) : List ((String × String) × Bucket) :=
  throttle.currentMeters.entries.flatMap fun entry =>
    entry.2.buckets.entries.map fun filed => ((entry.1, filed.1), filed.2)

/-- The key of the bucket of a value in a dimension. -/
def keyOf (pair : String × String) : String :=
  bucketKey pair.1 pair.2

/-- A bucket is filed exactly if it is alive. -/
theorem mem_filings_iff {pair : String × String} {bucket : Bucket} :
    (pair, bucket) ∈ throttle.filings ↔ throttle.bucketAt? pair.1 pair.2 = some bucket := by
  rw [bucketAt?, Option.bind_eq_some_iff, filings, List.mem_flatMap]
  constructor
  · rintro ⟨⟨dimension, meter⟩, served, inMeter⟩
    obtain ⟨⟨value, held⟩, kept, same⟩ := List.mem_map.1 inMeter
    obtain ⟨rfl, rfl⟩ := Prod.mk.inj same
    exact ⟨meter, Keyed.find?_eq_some_iff.2 served, Keyed.find?_eq_some_iff.2 kept⟩
  · rintro ⟨meter, served, kept⟩
    refine ⟨(pair.1, meter), Keyed.find?_eq_some_iff.1 served, ?_⟩
    exact List.mem_map.2 ⟨(pair.2, bucket), Keyed.find?_eq_some_iff.1 kept, rfl⟩

/-- No value has two buckets. -/
theorem nodup_filings (throttle : Throttle) : (throttle.filings.map Prod.fst).Nodup := by
  have named : throttle.filings.map Prod.fst =
      throttle.currentMeters.entries.flatMap fun entry =>
        entry.2.buckets.keys.map fun value => (entry.1, value) := by
    simp only [filings, List.map_flatMap, List.map_map, Function.comp_def, Keyed.keys]
  rw [named, List.nodup_flatMap]
  constructor
  · intro entry _
    exact entry.2.buckets.distinct.map fun _ _ same => (Prod.mk.inj same).2
  · refine (List.pairwise_map.1 throttle.currentMeters.distinct).imp ?_
    rintro ⟨dimension, meter⟩ ⟨other, otherMeter⟩ different pair here there
    obtain ⟨value, _, rfl⟩ := List.mem_map.1 here
    obtain ⟨name, _, same⟩ := List.mem_map.1 there
    exact different (Prod.mk.inj same).1.symm

theorem bucketCount_eq (throttle : Throttle) :
    throttle.bucketCount = throttle.filings.length := by
  simp only [bucketCount, filings, List.length_flatMap, List.length_map, Keyed.values, Keyed.size,
    List.map_map, Function.comp_def, List.sum_eq_foldr]

theorem mem_map_filings_iff {pair : String × String} :
    pair ∈ throttle.filings.map Prod.fst ↔ throttle.bucketAt? pair.1 pair.2 ≠ none := by
  rw [List.mem_map, Option.ne_none_iff_exists']
  constructor
  · rintro ⟨⟨_, bucket⟩, filed, rfl⟩
    exact ⟨bucket, mem_filings_iff.1 filed⟩
  · rintro ⟨bucket, found⟩
    exact ⟨(pair, bucket), mem_filings_iff.2 found, rfl⟩

/-- If all buckets stay alive there are no fewer of them. -/
theorem bucketCount_le_of_live
    (alive : ∀ dimension value, first.bucketAt? dimension value ≠ none →
      second.bucketAt? dimension value ≠ none) : first.bucketCount ≤ second.bucketCount := by
  have among : first.filings.map Prod.fst ⊆ second.filings.map Prod.fst := by
    intro pair member
    exact mem_map_filings_iff.2 (alive pair.1 pair.2 (mem_map_filings_iff.1 member))
  have fewer := (List.subperm_of_subset first.nodup_filings among).length_le
  rw [List.length_map, List.length_map] at fewer
  rwa [bucketCount_eq, bucketCount_eq]

/-! ### Buckets by key -/

theorem keyOf_inj {pair other : String × String} (named : isDimensionName pair.1 = true)
    (namedToo : isDimensionName other.1 = true) (same : keyOf pair = keyOf other) :
    pair = other := by
  have parts := congrArg splitKey same
  rw [keyOf, keyOf, splitKey_bucketKey named, splitKey_bucketKey namedToo] at parts
  exact Option.some.inj parts

theorem isDimensionName_of_bucketAt? (named : throttle.ServesNamed) {value : String}
    {bucket : Bucket} (found : throttle.bucketAt? dimension value = some bucket) :
    isDimensionName dimension = true := by
  obtain ⟨meter, served, -⟩ := exists_meter_of_bucketAt? found
  exact named dimension (mem_dimensions_of_find? served)

/-- If the dimensions have proper names, each bucket has a key of its own. -/
theorem entries_buckets (named : throttle.ServesNamed) :
    throttle.buckets.entries =
      throttle.filings.map fun filing => (keyOf filing.1, filing.2) := by
  have gathered : throttle.buckets =
      Keyed.ofPairs (throttle.filings.map fun filing => (keyOf filing.1, filing.2)) := by
    simp only [buckets, filings, List.map_flatMap, List.map_map, Function.comp_def, keyOf]
  have keyed : (throttle.filings.map fun filing => (keyOf filing.1, filing.2)).map Prod.fst =
      (throttle.filings.map Prod.fst).map keyOf := by
    simp only [List.map_map, Function.comp_def]
  rw [gathered]
  refine Keyed.entries_ofPairs ?_
  rw [keyed]
  refine throttle.nodup_filings.map_on ?_
  have proper (pair : String × String) (member : pair ∈ throttle.filings.map Prod.fst) :
      isDimensionName pair.1 = true := by
    obtain ⟨⟨_, bucket⟩, filed, rfl⟩ := List.mem_map.1 member
    exact isDimensionName_of_bucketAt? named (mem_filings_iff.1 filed)
  intro pair member other memberToo same
  exact keyOf_inj (proper pair member) (proper other memberToo) same

/-- The values whose buckets are full and were idle for at least `ttl`, by dimension. -/
def expiredPairs (throttle : Throttle) (ttl : Duration) (now : Instant) :
    List (String × String) :=
  (throttle.filings.filter fun filing => Sweep.isExpired ttl now filing.2).map Prod.fst

variable {ttl : Duration} {now : Instant}

theorem mem_expiredPairs_iff {pair : String × String} :
    pair ∈ throttle.expiredPairs ttl now ↔
      ∃ bucket, throttle.bucketAt? pair.1 pair.2 = some bucket ∧
        Sweep.isExpired ttl now bucket = true := by
  rw [expiredPairs, List.mem_map]
  constructor
  · rintro ⟨⟨_, bucket⟩, among, rfl⟩
    obtain ⟨filed, expired⟩ := List.mem_filter.1 among
    exact ⟨bucket, mem_filings_iff.1 filed, expired⟩
  · rintro ⟨bucket, found, expired⟩
    exact ⟨(pair, bucket), List.mem_filter.2 ⟨mem_filings_iff.2 found, expired⟩, rfl⟩

/-- A sweep selects the keys of what has expired. -/
theorem expired_buckets (named : throttle.ServesNamed) (ttl : Duration) (now : Instant) :
    Sweep.expired throttle.buckets ttl now = (throttle.expiredPairs ttl now).map keyOf := by
  simp only [Sweep.expired, entries_buckets named, expiredPairs, List.filter_map, List.map_map,
    Function.comp_def]

/-! ### Deletions -/

/-- The bucket of a value among some meters. -/
def bucketIn? (meters : Keyed Meter) (dimension value : String) : Option Bucket :=
  (meters.find? dimension).bind fun meter => meter.buckets.find? value

theorem bucketIn?_put {meters : Keyed Meter} (served : meters.find? dimension = some meter)
    (value : String) (held : Option Bucket) (other name : String) :
    bucketIn? (meters.put dimension (meter.withBucket value held)) other name =
      if (other, name) = (dimension, value) then held else bucketIn? meters other name := by
  rw [bucketIn?, bucketIn?, Keyed.find?_put]
  by_cases here : other = dimension
  · subst here
    rw [if_pos rfl, Option.bind_some, Meter.find?_withBucket, served, Option.bind_some]
    simp only [Prod.mk.injEq, true_and]
  · have elsewhere : ¬ (other, name) = (dimension, value) := fun same =>
      here (Prod.mk.inj same).1
    rw [if_neg here, if_neg elsewhere]

theorem bucketAt?_withMeter (served : throttle.currentMeters.find? dimension = some meter)
    (value : String) (held : Option Bucket) (other name : String) :
    (throttle.withMeter dimension (meter.withBucket value held)).bucketAt? other name =
      if (other, name) = (dimension, value) then held else throttle.bucketAt? other name :=
  bucketIn?_put served value held other name

/-- The second throttle has lost the buckets of some values and nothing else. -/
structure Lost (gone : List (String × String)) (first second : Throttle) : Prop where
  bare_eq : second.bare = first.bare
  bucketAt?_eq : ∀ dimension value, second.bucketAt? dimension value =
    if (dimension, value) ∈ gone then none else first.bucketAt? dimension value

/-- The throttle without the buckets of some values. -/
def without (throttle : Throttle) (gone : List (String × String)) : Throttle :=
  { throttle with
    meters := throttle.meters.map fun meters => meters.mapEntries fun dimension meter =>
      { meter with
        buckets := meter.buckets.dropping fun value => gone.contains (dimension, value) } }

theorem without_nil (throttle : Throttle) : throttle.without [] = throttle := by
  have kept (meter : Meter) (dimension : String) :
      { meter with
        buckets := meter.buckets.dropping fun value => List.contains [] (dimension, value) } =
        meter := by
    simp only [List.contains_nil, Keyed.dropping_of_none fun _ => rfl]
  simp only [without, kept, Keyed.mapEntries_id, Option.map_id']

theorem without_without (throttle : Throttle) (gone more : List (String × String)) :
    (throttle.without gone).without more = throttle.without (gone ++ more) := by
  simp only [without, Option.map_map, Function.comp_def, Keyed.mapEntries_mapEntries,
    Keyed.dropping_dropping, List.contains_append]

theorem without_congr {gone more : List (String × String)}
    (same : ∀ pair, pair ∈ gone ↔ pair ∈ more) :
    throttle.without gone = throttle.without more := by
  have listed (pair : String × String) : gone.contains pair = more.contains pair := by
    rw [Bool.eq_iff_iff, List.contains_iff_mem, List.contains_iff_mem, same]
  simp only [without, listed]

/-- The closed form of an eviction. -/
theorem evict_eq_without {pair : String × String} (served : pair.1 ∈ throttle.dimensions)
    (named : throttle.ServesNamed) :
    throttle.evict (keyOf pair) = .ok (throttle.without [pair]) := by
  obtain ⟨meter, found⟩ := exists_meter_of_mem served
  obtain ⟨meters, made⟩ : ∃ meters, throttle.meters = some meters :=
    Option.ne_none_iff_exists'.1 fun unmade => by
      rw [currentMeters_of_none unmade] at found
      cases found
  rw [evict, keyOf, splitKey_bucketKey (named pair.1 served)]
  simp only [found, Except.ok.injEq]
  rw [currentMeters_of_some made] at found ⊢
  rw [without, made, Option.map_some, Keyed.put_eq_mapEntries found]
  congr 2
  refine Keyed.mapEntries_congr fun dimension other held => ?_
  have listed (value : String) : [pair].contains (dimension, value) =
      decide (dimension = pair.1 ∧ value = pair.2) := by
    rw [Bool.eq_iff_iff, List.contains_iff_mem, List.mem_singleton, Prod.ext_iff,
      decide_eq_true_iff]
  by_cases here : dimension = pair.1
  · subst here
    obtain rfl := Option.some.inj (found.symm.trans held)
    simp only [if_true, Meter.evict, Keyed.erase_eq_dropping, listed, true_and]
  · simp only [here, if_false, listed, false_and, decide_false,
      Keyed.dropping_of_none fun _ => rfl]

theorem currentMeters_without (throttle : Throttle) (gone : List (String × String)) :
    (throttle.without gone).currentMeters =
      throttle.currentMeters.mapEntries fun dimension meter =>
        { meter with
          buckets := meter.buckets.dropping fun value => gone.contains (dimension, value) } := by
  cases made : throttle.meters with
  | none =>
      rw [currentMeters, currentMeters, without, made]
      rfl
  | some meters =>
      rw [currentMeters, currentMeters, without, made]
      rfl

theorem lost_without (throttle : Throttle) (gone : List (String × String)) :
    Lost gone throttle (throttle.without gone) where
  bare_eq := by
    simp only [bare, without, Option.map_map, Function.comp_def, Keyed.mapValues,
      Keyed.mapEntries_mapEntries]
    rfl
  bucketAt?_eq := by
    intro dimension value
    rw [bucketAt?, bucketAt?, currentMeters_without, Keyed.find?_mapEntries]
    cases throttle.currentMeters.find? dimension with
    | none => simp
    | some meter => simp [Keyed.find?_dropping]

theorem dimensions_without (throttle : Throttle) (gone : List (String × String)) :
    (throttle.without gone).dimensions = throttle.dimensions :=
  dimensions_of_bare_eq (throttle.lost_without gone).bare_eq

theorem servesNamed_without (named : throttle.ServesNamed) (gone : List (String × String)) :
    (throttle.without gone).ServesNamed :=
  servesNamed_of_bare_eq (throttle.lost_without gone).bare_eq named

/-- The key of a bucket leads to it. -/
theorem lost_of_evict {pair : String × String} (served : pair.1 ∈ throttle.dimensions)
    (named : throttle.ServesNamed) :
    ∃ after, throttle.evict (keyOf pair) = .ok after ∧ Lost [pair] throttle after :=
  ⟨throttle.without [pair], evict_eq_without served named, throttle.lost_without [pair]⟩

/-- Whatever bucket is forgotten, the dimensions stay. -/
theorem servesNamed_of_evict {after : Throttle} {key : String}
    (evicted : throttle.evict key = .ok after) (named : throttle.ServesNamed) :
    after.ServesNamed := by
  obtain ⟨dimension, value, meter, -, served, rfl⟩ := exists_of_evict evicted
  exact servesNamed_of_bare_eq (bare_withMeter served (meter.bare_withBucket value none)) named

/-- An eviction takes the bucket of a value away or leaves it as it is. -/
theorem bucketAt?_of_evict {key : String} (evicted : first.evict key = .ok second)
    (dimension value : String) :
    second.bucketAt? dimension value = none ∨
      second.bucketAt? dimension value = first.bucketAt? dimension value := by
  obtain ⟨other, name, meter, -, served, rfl⟩ := exists_of_evict evicted
  rw [bucketAt?_withMeter served]
  split
  · exact .inl rfl
  · exact .inr rfl

/-- Keys of served dimensions can all be deleted. -/
theorem deleteAll_keys {gone : List (String × String)}
    (served : ∀ pair ∈ gone, pair.1 ∈ throttle.dimensions) (named : throttle.ServesNamed) :
    Sweep.deleteAll evict (gone.map keyOf) 0 throttle = ⟨.ok (), 0, throttle.without gone⟩ := by
  induction gone generalizing throttle with
  | nil => rw [without_nil]; rfl
  | cons pair rest inductionHypothesis =>
      have evicted := evict_eq_without (served pair List.mem_cons_self) named
      have servedLater : ∀ other ∈ rest, other.1 ∈ (throttle.without [pair]).dimensions := by
        intro other later
        rw [dimensions_without]
        exact served other (List.mem_cons_of_mem pair later)
      simp only [List.map_cons, Sweep.deleteAll, evicted,
        inductionHypothesis servedLater (servesNamed_without named [pair]), without_without,
        List.singleton_append]

theorem Lost.bucketAt?_filter {after : Throttle}
    (lost : Lost (throttle.expiredPairs ttl now) throttle after) (dimension value : String) :
    after.bucketAt? dimension value =
      (throttle.bucketAt? dimension value).filter fun bucket =>
        !Sweep.isExpired ttl now bucket := by
  rw [lost.bucketAt?_eq]
  simp only [mem_expiredPairs_iff]
  cases found : throttle.bucketAt? dimension value with
  | none => simp
  | some bucket =>
      cases expired : Sweep.isExpired ttl now bucket <;> simp [Option.filter, expired]

/-- Keys of proper names in another order are those of the same values in another order. -/
theorem exists_pairs_of_perm {keys : List String} {pairs : List (String × String)}
    (proper : ∀ pair ∈ pairs, isDimensionName pair.1 = true)
    (same : keys.Perm (pairs.map keyOf)) :
    ∃ gone : List (String × String), gone.Perm pairs ∧ keys = gone.map keyOf := by
  let pairOf (key : String) : String × String := (splitKey key).getD ("", "")
  have back (pair : String × String) (member : pair ∈ pairs) : pairOf (keyOf pair) = pair := by
    simp only [pairOf, keyOf, splitKey_bucketKey (proper pair member), Option.getD_some]
  refine ⟨keys.map pairOf, ?_, ?_⟩
  · have whole : (pairs.map keyOf).map pairOf = pairs := by
      rw [List.map_map]
      exact (List.map_congr_left back).trans (List.map_id' pairs)
    exact whole ▸ same.map pairOf
  · have spelled (key : String) (member : key ∈ keys) : keyOf (pairOf key) = key := by
      obtain ⟨pair, among, rfl⟩ := List.mem_map.1 (same.subset member)
      exact congrArg keyOf (back pair among)
    rw [List.map_map]
    exact ((List.map_congr_left spelled).trans (List.map_id' keys)).symm

theorem mem_dimensions_of_mem_expiredPairs {pair : String × String}
    (expired : pair ∈ throttle.expiredPairs ttl now) : pair.1 ∈ throttle.dimensions := by
  obtain ⟨bucket, found, -⟩ := mem_expiredPairs_iff.1 expired
  obtain ⟨meter, served, -⟩ := exists_meter_of_bucketAt? found
  exact mem_dimensions_of_find? served

/-- A sweep that comes by the buckets in some order selects the keys of what has expired, in some
order. -/
theorem exists_order_of_perm (named : throttle.ServesNamed) {snapshot : Keyed Bucket}
    (same : snapshot.entries.Perm throttle.buckets.entries) (ttl : Duration) (now : Instant) :
    ∃ order : List (String × String), order.Perm (throttle.expiredPairs ttl now) ∧
      Sweep.expired snapshot ttl now = order.map keyOf ∧
      ∀ pair ∈ order, pair.1 ∈ throttle.dimensions := by
  have selected : (Sweep.expired snapshot ttl now).Perm
      ((throttle.expiredPairs ttl now).map keyOf) := by
    rw [← expired_buckets named]
    exact (same.filter _).map Prod.fst
  obtain ⟨order, reordered, keys⟩ := exists_pairs_of_perm
    (fun pair expired => named pair.1 (mem_dimensions_of_mem_expiredPairs expired)) selected
  exact ⟨order, reordered, keys, fun _ member =>
    mem_dimensions_of_mem_expiredPairs (reordered.subset member)⟩

/-- The closed form of a sweep whose deletions do not fail, in whichever order it comes by the
buckets. -/
theorem run_eq_without (named : throttle.ServesNamed) {snapshot : Keyed Bucket}
    (same : snapshot.entries.Perm throttle.buckets.entries) (ttl : Duration) (now : Instant) :
    Sweep.run evict snapshot ttl now 0 throttle =
      ⟨.ok (throttle.expiredPairs ttl now).length, 0,
        throttle.without (throttle.expiredPairs ttl now)⟩ := by
  obtain ⟨order, reordered, keys, served⟩ := exists_order_of_perm named same ttl now
  simp only [Sweep.run, keys, deleteAll_keys served named, List.length_map,
    reordered.length_eq, Except.map, without_congr fun pair => reordered.mem_iff]

/-- A sweep whose deletions do not fail takes away what has expired, says how much that was and
leaves everything else, in whichever order it comes by the buckets. -/
theorem run_eq_of_perm (named : throttle.ServesNamed) {snapshot : Keyed Bucket}
    (same : snapshot.entries.Perm throttle.buckets.entries) (ttl : Duration) (now : Instant) :
    ∃ after, Sweep.run evict snapshot ttl now 0 throttle =
        ⟨.ok (throttle.expiredPairs ttl now).length, 0, after⟩ ∧
      Lost (throttle.expiredPairs ttl now) throttle after :=
  ⟨_, run_eq_without named same ttl now, throttle.lost_without _⟩

/-- A sweep whose deletions do not fail takes away what has expired, says how much that was and
leaves everything else. -/
theorem sweep_eq (named : throttle.ServesNamed) (ttl : Duration) (now : Instant) :
    ∃ after, throttle.sweep ttl now 0 =
        ⟨.ok (throttle.expiredPairs ttl now).length, 0, after⟩ ∧
      Lost (throttle.expiredPairs ttl now) throttle after :=
  run_eq_of_perm named (.refl _) ttl now

/-- Together with the buckets that have expired, what a sweep leaves is all that there was. -/
theorem Lost.length_add_bucketCount {after : Throttle}
    (lost : Lost (throttle.expiredPairs ttl now) throttle after) :
    (throttle.expiredPairs ttl now).length + after.bucketCount = throttle.bucketCount := by
  have apart : (throttle.expiredPairs ttl now).Disjoint (after.filings.map Prod.fst) := by
    intro pair expired left
    rw [mem_map_filings_iff, lost.bucketAt?_eq, if_pos expired] at left
    exact left rfl
  have distinct : (throttle.expiredPairs ttl now ++ after.filings.map Prod.fst).Nodup :=
    List.Nodup.append (throttle.nodup_filings.sublist (List.filter_sublist.map Prod.fst))
      after.nodup_filings apart
  have same : (throttle.expiredPairs ttl now ++ after.filings.map Prod.fst).Perm
      (throttle.filings.map Prod.fst) := by
    rw [List.perm_ext_iff_of_nodup distinct throttle.nodup_filings]
    intro pair
    rw [List.mem_append, mem_map_filings_iff, mem_map_filings_iff, lost.bucketAt?_eq]
    by_cases expired : pair ∈ throttle.expiredPairs ttl now
    · obtain ⟨bucket, found, -⟩ := mem_expiredPairs_iff.1 expired
      simp [expired, found]
    · simp [expired]
  have counted := same.length_eq
  rw [List.length_append, List.length_map, List.length_map] at counted
  rwa [bucketCount_eq, bucketCount_eq]

/-- A bucket below its capacity stays as it is when a sweep goes by, whether deletions fail or
not. -/
theorem bucketAt?_sweep_of_lacking (named : throttle.ServesNamed) {value : String}
    {bucket : Bucket} (found : throttle.bucketAt? dimension value = some bucket)
    (lacking : bucket.isFull = false) (ttl : Duration) (now : Instant) (failures : Nat) :
    (throttle.sweep ttl now failures).state.bucketAt? dimension value = some bucket := by
  cases failures with
  | zero =>
      obtain ⟨after, swept, lost⟩ := sweep_eq named ttl now
      rw [swept, lost.bucketAt?_filter, found]
      simp only [Option.filter, Sweep.isExpired, lacking, Bool.false_and, Bool.not_false, if_true]
  | succ fewer =>
      -- The first deletion fails, so there is none.
      simp only [sweep, Sweep.run]
      cases Sweep.expired throttle.buckets ttl now <;> exact found

end Throttle

/-! ### Housekeepers -/

namespace Housekeeper

variable {keeper : Housekeeper} {throttle : Throttle}

/-- A sweep of a housekeeper whose deletions do not fail. -/
theorem sweepOnce_eq (sure : keeper.failures = 0) (named : throttle.ServesNamed) (now : Instant) :
    ∃ after, keeper.sweepOnce throttle now =
        (.finished (throttle.expiredPairs keeper.ttl now).length after.bucketCount,
          { keeper with deadline := deadlineAfter keeper.interval keeper.deadline now }, after) ∧
      Throttle.Lost (throttle.expiredPairs keeper.ttl now) throttle after := by
  obtain ⟨after, swept, lost⟩ := Throttle.sweep_eq named keeper.ttl now
  refine ⟨after, ?_, lost⟩
  rw [sweepOnce, sure, swept]

/-- Sweeps that do not fail leave everything but the buckets, and none of them is counted as
failed. -/
theorem sweepTimes_sure (keeper : Housekeeper) (sure : keeper.failures = 0)
    (named : throttle.ServesNamed) (now : Instant) (count : Nat) :
    (sweepTimes now count keeper throttle).2.1.failures = 0 ∧
      (sweepTimes now count keeper throttle).2.2.bare = throttle.bare := by
  induction count generalizing keeper throttle with
  | zero => exact ⟨sure, rfl⟩
  | succ more inductionHypothesis =>
      obtain ⟨after, swept, lost⟩ := sweepOnce_eq sure named now
      rw [sweepTimes, swept]
      obtain ⟨sureLater, bare_eq⟩ :=
        inductionHypothesis
          { keeper with deadline := deadlineAfter keeper.interval keeper.deadline now } sure
          (Throttle.servesNamed_of_bare_eq lost.bare_eq named)
      exact ⟨sureLater, bare_eq.trans lost.bare_eq⟩

theorem bucketAt?_sweepTimes_of_lacking (keeper : Housekeeper) (named : throttle.ServesNamed)
    {dimension value : String} {bucket : Bucket}
    (found : throttle.bucketAt? dimension value = some bucket) (lacking : bucket.isFull = false)
    (now : Instant) (count : Nat) :
    (sweepTimes now count keeper throttle).2.2.bucketAt? dimension value = some bucket := by
  induction count generalizing keeper throttle with
  | zero => exact found
  | succ more inductionHypothesis =>
      exact inductionHypothesis _
        (Throttle.sweep_preserves Throttle.ServesNamed Throttle.servesNamed_of_evict keeper.ttl now
          keeper.failures named)
        (Throttle.bucketAt?_sweep_of_lacking named found lacking keeper.ttl now keeper.failures)

end Housekeeper

/-- Whatever a housekeeper has to do, a bucket below its capacity stays as it is. -/
theorem Watch.bucketAt?_runDue_of_lacking (watch : Watch) {throttle : Throttle}
    (named : throttle.ServesNamed) {dimension value : String} {bucket : Bucket}
    (found : throttle.bucketAt? dimension value = some bucket) (lacking : bucket.isFull = false)
    (now : Instant) :
    (watch.runDue throttle now).2.2.bucketAt? dimension value = some bucket := by
  cases watch with
  | running keeper => exact keeper.bucketAt?_sweepTimes_of_lacking named found lacking now _
  | _ => exact found

end LoginThrottle
