import LoginThrottle.Proofs.Throttle.Eviction
import LoginThrottle.Station

/-!
# Sweeps take away what has expired, and nothing else

If the dimensions of a throttle have proper names, the keys of its buckets are as good as their
dimensions and values, whatever the values are.  So a sweep takes away the buckets that are
full and idle, in whichever order it comes by them, and leaves nothing for another one.

## Main Statements

* `Throttle.find?_buckets_iff`, `Throttle.size_buckets`: the buckets by key are those that live
* `Throttle.expiredPairs_eq_nil_of_lost`: a sweep leaves nothing that has expired
* `Throttle.run_of_nothing_expired`: a sweep that finds nothing does nothing
* `Throttle.sweeps_what_expired`: keys, deletions and sweeps in any order
-/

namespace LoginThrottle

namespace Throttle

variable {throttle after : Throttle} {ttl : Duration} {now : Instant}

/-! ### Buckets by key -/

/-- What is filed under a key is the bucket of the value that the key was made of. -/
theorem find?_buckets_iff (named : throttle.ServesNamed) {key : String} {bucket : Bucket} :
    throttle.buckets.find? key = some bucket ↔
      ∃ pair, keyOf pair = key ∧ throttle.bucketAt? pair.1 pair.2 = some bucket := by
  rw [Keyed.find?_eq_some_iff, entries_buckets named, List.mem_map]
  constructor
  · rintro ⟨⟨pair, held⟩, filed, same⟩
    obtain ⟨rfl, rfl⟩ := Prod.mk.inj same
    exact ⟨pair, rfl, mem_filings_iff.1 filed⟩
  · rintro ⟨pair, rfl, found⟩
    exact ⟨(pair, bucket), mem_filings_iff.2 found, rfl⟩

theorem size_buckets (named : throttle.ServesNamed) :
    throttle.buckets.size = throttle.bucketCount := by
  rw [bucketCount_eq, Keyed.size, entries_buckets named, List.length_map]

/-- Buckets that live have keys of their own. -/
theorem eq_of_keyOf_eq (named : throttle.ServesNamed) {pair other : String × String}
    (lives : throttle.bucketAt? pair.1 pair.2 ≠ none)
    (livesToo : throttle.bucketAt? other.1 other.2 ≠ none) (same : keyOf pair = keyOf other) :
    pair = other := by
  obtain ⟨bucket, found⟩ := Option.ne_none_iff_exists'.1 lives
  obtain ⟨another, foundToo⟩ := Option.ne_none_iff_exists'.1 livesToo
  exact keyOf_inj (isDimensionName_of_bucketAt? named found)
    (isDimensionName_of_bucketAt? named foundToo) same

/-- The key of a bucket that lives leads to it. -/
theorem lost_of_evict_live (named : throttle.ServesNamed) {pair : String × String}
    (lives : throttle.bucketAt? pair.1 pair.2 ≠ none) :
    ∃ after, throttle.evict (keyOf pair) = .ok after ∧ Lost [pair] throttle after := by
  obtain ⟨bucket, found⟩ := Option.ne_none_iff_exists'.1 lives
  obtain ⟨meter, served, -⟩ := exists_meter_of_bucketAt? found
  exact lost_of_evict (mem_dimensions_of_find? served) named

/-! ### What has expired -/

theorem isExpired_eq_decide (ttl : Duration) (now : Instant) (bucket : Bucket) :
    Sweep.isExpired ttl now bucket =
      decide (bucket.tokens = bucket.capacity ∧ ttl ≤ now.since bucket.lastRefill) := by
  rw [Sweep.isExpired, Bucket.isFull, Bucket.idleFor, Bool.decide_and]
  rfl

theorem length_expiredPairs (named : throttle.ServesNamed) (ttl : Duration) (now : Instant) :
    (throttle.expiredPairs ttl now).length =
      throttle.buckets.values.countP (Sweep.isExpired ttl now) := by
  rw [expiredPairs, List.length_map, Keyed.values, entries_buckets named, List.map_map,
    List.countP_map, List.countP_eq_length_filter]
  rfl

/-- A sweep leaves nothing that has expired. -/
theorem expiredPairs_eq_nil_of_lost (lost : Lost (throttle.expiredPairs ttl now) throttle after) :
    after.expiredPairs ttl now = [] := by
  refine List.eq_nil_iff_forall_not_mem.2 fun pair expired => ?_
  obtain ⟨bucket, left, old⟩ := mem_expiredPairs_iff.1 expired
  rw [lost.bucketAt?_filter, Option.filter_eq_some_iff] at left
  rw [old] at left
  exact Bool.false_ne_true left.2

/-- A sweep that finds nothing does nothing. -/
theorem run_of_nothing_expired (named : throttle.ServesNamed)
    (nothing : throttle.expiredPairs ttl now = []) {snapshot : Keyed Bucket}
    (same : snapshot.entries.Perm throttle.buckets.entries) :
    Sweep.run evict snapshot ttl now 0 throttle = ⟨.ok 0, 0, throttle⟩ := by
  have selected : (Sweep.expired snapshot ttl now).Perm (Sweep.expired throttle.buckets ttl now) :=
    (same.filter _).map Prod.fst
  rw [expired_buckets named, nothing, List.map_nil, List.perm_nil] at selected
  rw [Sweep.run, selected]
  rfl

/-! ### Sweeps -/

/-- **A sweep evicts exactly what has expired.**  Let the dimensions that a throttle serves have
proper names.  Then it has one key for each bucket that lives, and the deletion of that key takes
away this bucket only.  A sweep that comes by the buckets in any order, such as that of
`Throttle.sweep`, says how many of them are full and were idle for at least `ttl`, takes away
these and leaves all others as they are.  After it another sweep at the same reading finds
nothing. -/
theorem sweeps_what_expired (named : throttle.ServesNamed) (ttl : Duration) (now : Instant) :
    let expired := fun bucket : Bucket =>
      decide (bucket.tokens = bucket.capacity ∧ ttl ≤ now.since bucket.lastRefill)
    (∀ key bucket, throttle.buckets.find? key = some bucket ↔
      ∃ pair, keyOf pair = key ∧ throttle.bucketAt? pair.1 pair.2 = some bucket) ∧
    (∀ pair other : String × String, throttle.bucketAt? pair.1 pair.2 ≠ none →
      throttle.bucketAt? other.1 other.2 ≠ none → keyOf pair = keyOf other → pair = other) ∧
    throttle.buckets.size = throttle.bucketCount ∧
    (∀ pair : String × String, throttle.bucketAt? pair.1 pair.2 ≠ none →
      ∃ after, throttle.evict (keyOf pair) = .ok after ∧ Lost [pair] throttle after) ∧
    ∀ snapshot : Keyed Bucket, snapshot.entries.Perm throttle.buckets.entries →
      ∃ after, Sweep.run evict snapshot ttl now 0 throttle =
          ⟨.ok (throttle.buckets.values.countP expired), 0, after⟩ ∧
        after.bare = throttle.bare ∧
        (∀ dimension value bucket, after.bucketAt? dimension value = some bucket ↔
          throttle.bucketAt? dimension value = some bucket ∧ expired bucket = false) ∧
        ∀ next : Keyed Bucket, next.entries.Perm after.buckets.entries →
          Sweep.run evict next ttl now 0 after = ⟨.ok 0, 0, after⟩ := by
  intro expired
  have isExpired : Sweep.isExpired ttl now = expired := funext (isExpired_eq_decide ttl now)
  refine ⟨fun _ _ => find?_buckets_iff named, fun _ _ => eq_of_keyOf_eq named, size_buckets named,
    fun _ => lost_of_evict_live named, fun snapshot same => ?_⟩
  obtain ⟨after, swept, lost⟩ := run_eq_of_perm named same ttl now
  refine ⟨after, ?_, lost.bare_eq, fun dimension value bucket => ?_, fun next order => ?_⟩
  · rw [swept, length_expiredPairs named, isExpired]
  · rw [lost.bucketAt?_filter, Option.filter_eq_some_iff, isExpired, Bool.not_eq_true']
  · exact run_of_nothing_expired (servesNamed_of_bare_eq lost.bare_eq named)
      (expiredPairs_eq_nil_of_lost lost) order

/-- A station at which nothing and a text with a separator were named as logins, and the second
was forgiven. -/
def oddLogins : Station :=
  Station.run (.new ⟨.new .never, .new (.reliable [.plain "login" 3]) ⟨1, ⟨5⟩⟩⟩)
    [.check .throttle (.ofPairs [("login", "")]), .check .throttle (.ofPairs [("login", "a_b")]),
      .reset .throttle (.ofPairs [("login", "a_b")])]

/-- A sweep takes away the bucket that was filled up and leaves the one that was charged. -/
theorem oddLogins_swept :
    let throttle := oddLogins.guard.throttle
    throttle.ServesNamed ∧ ∃ after, throttle.sweep ⟨0⟩ .origin 0 = ⟨.ok 1, 0, after⟩ ∧
      after.bucketAt? "login" "a_b" = none ∧
      after.bucketAt? "login" "" = some ⟨3, ⟨1, ⟨5⟩⟩, 2, .origin⟩ := by
  intro throttle
  have named : throttle.ServesNamed := by
    unfold ServesNamed
    decide +kernel
  obtain ⟨-, -, -, -, sweeps⟩ := sweeps_what_expired named ⟨0⟩ .origin
  obtain ⟨after, swept, -, left, -⟩ := sweeps throttle.buckets (.refl _)
  refine ⟨named, after, swept.trans ?_, ?_, (left _ _ _).2 ⟨?_, ?_⟩⟩
  · rw [show throttle.buckets.values.countP _ = 1 by decide +kernel]
  · refine Option.eq_none_iff_forall_ne_some.2 fun bucket stays => ?_
    obtain ⟨found, young⟩ := (left _ _ _).1 stays
    have held : throttle.bucketAt? "login" "a_b" = some ⟨3, ⟨1, ⟨5⟩⟩, 3, .origin⟩ := by
      decide +kernel
    obtain rfl := Option.some.inj (held.symm.trans found)
    exact absurd young (by decide)
  · decide +kernel
  · decide

end Throttle

end LoginThrottle
