import LoginThrottle.Proofs.Throttle.ExactSweep

/-!
# Sweeps that fail half-way

A sweep stops at the first deletion that fails.  By then it has forgotten some of the buckets
that have expired, and which ones depends on the order in which it came by them.  It has done
nothing else.  So a later sweep at the same reading finds the others, and in the end the order
does not show.

## Main Definitions

* `Throttle.evictUnless`: an eviction that may fail at any bucket
* `Throttle.FailedSweeps`: sweeps that fail one after the other

## Main Statements

* `Throttle.run_ends`: what a sweep has done when it ends
* `Throttle.failed_sweeps_converge`: failed sweeps do no harm, and sweeps after them make up for
  them

## Design Notes

`Sweep.run` counts how many of the coming deletions fail.  Here a deletion may also fail because
of the throttle that it finds or the key that it is asked for, so a sweep may stop anywhere.
-/

namespace LoginThrottle

namespace Throttle

variable {throttle later : Throttle} {ttl : Duration} {now : Instant}
  {gone : List (String × String)}

/-! ### What is left of what has expired -/

theorem mem_expiredPairs_without_iff {pair : String × String} :
    pair ∈ (throttle.without gone).expiredPairs ttl now ↔
      pair ∈ throttle.expiredPairs ttl now ∧ pair ∉ gone := by
  rw [mem_expiredPairs_iff, mem_expiredPairs_iff, (throttle.lost_without gone).bucketAt?_eq]
  by_cases lost : pair ∈ gone
  · simp [lost]
  · simp [lost]

/-! ### Sweeps that may stop anywhere -/

/-- An eviction that fails if it is refused. -/
def evictUnless (refused : Throttle → String → Bool) (throttle : Throttle) (key : String) :
    Except Fault Throttle :=
  if refused throttle key then .error (.storage "sweep failed") else throttle.evict key

variable (refused : Throttle → String → Bool)

/-- Deletions take buckets away one after the other, up to the first deletion that fails. -/
theorem deleteAll_ends {pairs : List (String × String)} (failures : Nat)
    (served : ∀ pair ∈ pairs, pair.1 ∈ throttle.dimensions) (named : throttle.ServesNamed) :
    ∃ done rest, pairs = done ++ rest ∧
      (Sweep.deleteAll (evictUnless refused) (pairs.map keyOf) failures throttle).state =
        throttle.without done ∧
      ((Sweep.deleteAll (evictUnless refused) (pairs.map keyOf) failures throttle).result =
        .ok () → rest = []) := by
  -- A deletion that fails, by its number or because it is refused, leaves all that follow undone.
  induction pairs generalizing throttle with
  | nil => exact ⟨[], [], rfl, throttle.without_nil.symm, fun _ => rfl⟩
  | cons pair rest inductionHypothesis =>
      cases failures with
      | succ fewer =>
          refine ⟨[], pair :: rest, rfl, throttle.without_nil.symm, fun ended => ?_⟩
          cases ended
      | zero =>
          rw [List.map_cons, Sweep.deleteAll, evictUnless]
          cases refused throttle (keyOf pair) with
          | true =>
              refine ⟨[], pair :: rest, rfl, throttle.without_nil.symm, fun ended => ?_⟩
              cases ended
          | false =>
              have evicted := evict_eq_without (served pair List.mem_cons_self) named
              have servedLater :
                  ∀ other ∈ rest, other.1 ∈ (throttle.without [pair]).dimensions := by
                intro other member
                rw [dimensions_without]
                exact served other (List.mem_cons_of_mem pair member)
              obtain ⟨done, left, split, state_eq, ended⟩ :=
                inductionHypothesis servedLater (servesNamed_without named [pair])
              simp only [evicted, Bool.false_eq_true, if_false]
              refine ⟨pair :: done, left, congrArg (pair :: ·) split, ?_, ended⟩
              rw [state_eq, without_without]
              rfl

/-- Whenever a sweep ends, it has taken away some of the buckets that had expired, or all of them
if it succeeded. -/
theorem run_ends (named : throttle.ServesNamed) {snapshot : Keyed Bucket}
    (same : snapshot.entries.Perm throttle.buckets.entries) (ttl : Duration) (now : Instant)
    (failures : Nat) :
    ∃ gone : List (String × String), gone ⊆ throttle.expiredPairs ttl now ∧
      (Sweep.run (evictUnless refused) snapshot ttl now failures throttle).state =
        throttle.without gone ∧
      ∀ count, (Sweep.run (evictUnless refused) snapshot ttl now failures throttle).result =
        .ok count → throttle.without gone = throttle.without (throttle.expiredPairs ttl now) := by
  obtain ⟨order, reordered, keys, served⟩ := exists_order_of_perm named same ttl now
  obtain ⟨done, rest, rfl, state_eq, ended⟩ := deleteAll_ends refused failures served named
  refine ⟨done, fun pair member => reordered.subset (List.mem_append_left rest member), ?_, ?_⟩
  · simp only [Sweep.run, keys, state_eq]
  · intro count succeeded
    simp only [Sweep.run, keys] at succeeded
    obtain rfl : rest = [] := ended (by
      cases deleted : (Sweep.deleteAll (evictUnless refused) ((done ++ rest).map keyOf) failures
        throttle).result with
      | ok _ => rfl
      | error fault =>
          rw [deleted] at succeeded
          cases succeeded)
    rw [List.append_nil] at reordered
    exact without_congr fun pair => reordered.mem_iff

/-- Sweeps at one reading that fail one after the other, each in an order of its own, and how many
of the coming deletions fail before and after them. -/
inductive FailedSweeps (ttl : Duration) (now : Instant) :
    Throttle → Nat → Throttle → Nat → Prop
  | none (throttle : Throttle) (failures : Nat) :
      FailedSweeps ttl now throttle failures throttle failures
  | more {throttle between later : Throttle} {failures left remaining : Nat} {fault : Fault}
      (snapshot : Keyed Bucket) (same : snapshot.entries.Perm throttle.buckets.entries)
      (refused : Throttle → String → Bool)
      (failed : Sweep.run (evictUnless refused) snapshot ttl now failures throttle =
        ⟨.error fault, left, between⟩)
      (others : FailedSweeps ttl now between left later remaining) :
      FailedSweeps ttl now throttle failures later remaining

/-- Failed sweeps have taken away some of the buckets that had expired. -/
theorem FailedSweeps.exists_without {failures remaining : Nat}
    (sweeps : FailedSweeps ttl now throttle failures later remaining)
    (named : throttle.ServesNamed) :
    ∃ gone : List (String × String), gone ⊆ throttle.expiredPairs ttl now ∧
      later = throttle.without gone := by
  induction sweeps with
  | none throttle failures => exact ⟨[], List.nil_subset _, throttle.without_nil.symm⟩
  | more snapshot same refused failed others inductionHypothesis =>
      obtain ⟨first, expired, state_eq, -⟩ := run_ends refused named same ttl now _
      rw [failed] at state_eq
      dsimp only at state_eq
      subst state_eq
      obtain ⟨second, expiredToo, rfl⟩ := inductionHypothesis (servesNamed_without named first)
      -- What the later sweeps took away was there all the time, so it had expired before.
      refine ⟨first ++ second, List.append_subset.2 ⟨expired, fun pair member => ?_⟩,
        without_without _ first second⟩
      exact (mem_expiredPairs_without_iff.1 (expiredToo member)).1

/-- What has expired is gone once the rest of it is gone, too. -/
theorem without_expiredPairs_without (expired : gone ⊆ throttle.expiredPairs ttl now) :
    (throttle.without gone).without ((throttle.without gone).expiredPairs ttl now) =
      throttle.without (throttle.expiredPairs ttl now) := by
  rw [without_without]
  refine without_congr fun pair => ?_
  rw [List.mem_append, mem_expiredPairs_without_iff]
  constructor
  · rintro (early | ⟨found, -⟩)
    · exact expired early
    · exact found
  · intro found
    by_cases early : pair ∈ gone
    · exact .inl early
    · exact .inr ⟨found, early⟩

/-- Of the buckets, only some that have expired are gone. -/
theorem bucketAt?_without_cases (expired : gone ⊆ throttle.expiredPairs ttl now)
    {dimension value : String} {bucket : Bucket}
    (found : throttle.bucketAt? dimension value = some bucket) :
    (throttle.without gone).bucketAt? dimension value = some bucket ∨
      (throttle.without gone).bucketAt? dimension value = none ∧
        bucket.tokens = bucket.capacity ∧ ttl ≤ now.since bucket.lastRefill := by
  rw [(throttle.lost_without gone).bucketAt?_eq]
  by_cases lost : (dimension, value) ∈ gone
  · obtain ⟨other, foundToo, old⟩ := mem_expiredPairs_iff.1 (expired lost)
    obtain rfl := Option.some.inj (found.symm.trans foundToo)
    rw [isExpired_eq_decide, decide_eq_true_iff] at old
    exact .inr ⟨if_pos lost, old⟩
  · exact .inl ((if_neg lost).trans found)

/-- **Failed sweeps do no harm and are made up for.**  Let the dimensions that a throttle serves
have proper names.  In whichever order a sweep comes by the buckets and wherever it fails, it has
forgotten only buckets that are full and were idle for at least `ttl`, and everything else is as
it was.  After any number of failed sweeps, a sweep at the same reading whose deletions do not fail
succeeds, and every sweep that succeeds leaves exactly what a single sweep would have left that
succeeded in their place. -/
theorem failed_sweeps_converge (named : throttle.ServesNamed) (ttl : Duration) (now : Instant) :
    (∀ snapshot : Keyed Bucket, snapshot.entries.Perm throttle.buckets.entries →
      ∀ refused failures fault left after,
        Sweep.run (evictUnless refused) snapshot ttl now failures throttle =
          ⟨.error fault, left, after⟩ →
        after.bare = throttle.bare ∧ ∀ dimension value,
          (throttle.bucketAt? dimension value = none →
            after.bucketAt? dimension value = none) ∧
          ∀ bucket, throttle.bucketAt? dimension value = some bucket →
            after.bucketAt? dimension value = some bucket ∨
              after.bucketAt? dimension value = none ∧
                bucket.tokens = bucket.capacity ∧ ttl ≤ now.since bucket.lastRefill) ∧
    ∃ swept expired, throttle.sweep ttl now 0 = ⟨.ok expired, 0, swept⟩ ∧
      ∀ failures later remaining,
        FailedSweeps ttl now throttle failures later remaining →
        ∀ snapshot : Keyed Bucket, snapshot.entries.Perm later.buckets.entries →
          (∃ count, Sweep.run evict snapshot ttl now 0 later = ⟨.ok count, 0, swept⟩) ∧
          ∀ refused count left after,
            Sweep.run (evictUnless refused) snapshot ttl now remaining later =
              ⟨.ok count, left, after⟩ → after = swept := by
  constructor
  · intro snapshot same refused failures fault left after failed
    obtain ⟨gone, expired, state_eq, -⟩ := run_ends refused named same ttl now failures
    rw [failed] at state_eq
    dsimp only at state_eq
    subst state_eq
    have lost := throttle.lost_without gone
    refine ⟨lost.bare_eq, fun dimension value => ⟨fun missing => ?_, fun bucket found =>
      bucketAt?_without_cases expired found⟩⟩
    rw [lost.bucketAt?_eq, missing, ite_self]
  · refine ⟨_, _, run_eq_without named (.refl _) ttl now,
      fun failures later remaining sweeps snapshot same => ?_⟩
    obtain ⟨gone, expired, rfl⟩ := sweeps.exists_without named
    have namedLater := servesNamed_without named gone
    rw [← without_expiredPairs_without expired]
    refine ⟨⟨_, run_eq_without namedLater same ttl now⟩, fun refused count left after ended => ?_⟩
    obtain ⟨_, -, state_eq, whole⟩ := run_ends refused namedLater same ttl now remaining
    rw [ended] at state_eq whole
    exact state_eq.trans (whole count rfl)

/-- A station at which three logins were named, two of which were given a fresh start. -/
def threeLogins : Station :=
  let named (login : String) : Identity := .ofPairs [("login", login)]
  Station.run (.new ⟨.new .never, .new (.reliable [.plain "login" 3]) ⟨1, ⟨5⟩⟩⟩)
    [.check .throttle (named "a"), .check .throttle (named "b"), .check .throttle (named "c"),
      .reset .throttle (named "a"), .reset .throttle (named "b")]

/-- A sweep stops when one of the two buckets that have expired is gone.  The next one takes away
the other and leaves what a single sweep would have left. -/
theorem halfway_sweep_again :
    let throttle := threeLogins.guard.throttle
    let stopped := Sweep.run (evictUnless fun left _ => left.bucketCount == 2) throttle.buckets
      ⟨0⟩ .origin 0 throttle
    throttle.ServesNamed ∧ stopped.result = .error (.storage "sweep failed") ∧
      stopped.state.bucketCount = 2 ∧
      (stopped.state.sweep ⟨0⟩ .origin 0).state = (throttle.sweep ⟨0⟩ .origin 0).state ∧
      (throttle.sweep ⟨0⟩ .origin 0).state.bucketCount = 1 := by
  intro throttle stopped
  have named : throttle.ServesNamed := by
    unfold ServesNamed
    decide +kernel
  have failed : stopped.result = .error (.storage "sweep failed") := by decide +kernel
  obtain ⟨-, swept, expired, single, converge⟩ := failed_sweeps_converge named ⟨0⟩ .origin
  have sweeps : FailedSweeps ⟨0⟩ .origin throttle 0 stopped.state stopped.failures :=
    .more throttle.buckets (.refl _) _ (by rw [← failed]) (.none _ _)
  obtain ⟨⟨count, again⟩, -⟩ := converge _ _ _ sweeps stopped.state.buckets (.refl _)
  have left : (stopped.state.sweep ⟨0⟩ .origin 0).state = swept :=
    congrArg Sweep.Outcome.state again
  refine ⟨named, failed, by decide +kernel, ?_, by decide +kernel⟩
  rw [single]
  exact left

end Throttle

end LoginThrottle
