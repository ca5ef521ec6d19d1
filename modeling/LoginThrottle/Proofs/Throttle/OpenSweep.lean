import LoginThrottle.Proofs.Station.Invariant
import LoginThrottle.Proofs.Throttle.Walk

/-!
# Checks between the selection and the deletions of a sweep

A sweep selects its keys from a snapshot and deletes them one by one, without another look at
the buckets.  Checks that come in between find the selected buckets still there and are paid from
them.  What is paid like that is forgotten with the bucket.

## Main Definitions

* `OpenSweep`: a throttle and the keys that a sweep has yet to delete
* `OpenSweep.Turn`: a check, or the next deletion
* `OpenSweep.deeds`: what clients can notice of some turns
* `Bucket.LacksAtMost`: no more than so many tokens are missing from a bucket

## Main Statements

* `OpenSweep.run_openSweep`: without checks in between it is a sweep
* `OpenSweep.deletes_expired`: what is deleted had expired when it was selected, and no more is
  forgotten than was paid since
* `OpenSweep.forgets_payment`: that much can be forgotten

## Design Notes

A check is one turn here, from its first dimension to its last.  Deletions between two of its
dimensions could only add to what goes wrong already.
-/

namespace LoginThrottle

/-! ### Tokens that are missing -/

namespace Bucket

/-- No more than so many tokens are missing from the bucket of a value, if it has one. -/
def LacksAtMost (missing : Nat) (held : Option Bucket) : Prop :=
  ∀ bucket, held = some bucket → bucket.capacity ≤ bucket.tokens + missing

variable {capacity cost missing : Nat} {rate : RefillRate} {now : Instant}
  {old new : Option Bucket} {effect : Effect}

theorem lacksAtMost_of_isExpired {bucket : Bucket} {ttl : Duration}
    (expired : Sweep.isExpired ttl now bucket = true) : LacksAtMost 0 (some bucket) := by
  rintro _ ⟨⟩
  rw [Sweep.isExpired, Bool.and_eq_true] at expired
  exact Nat.le_of_eq (eq_of_beq expired.1).symm

theorem LacksAtMost.refill_getD (lacks : LacksAtMost missing old) (capacity : Nat)
    (rate : RefillRate) (now : Instant) :
    LacksAtMost missing (some ((old.getD (fresh capacity rate now)).refill now)) := by
  have before : LacksAtMost missing (some (old.getD (fresh capacity rate now))) := by
    cases old with
    | none =>
        rintro _ ⟨⟩
        exact Nat.le_add_right capacity missing
    | some bucket => exact lacks
  generalize old.getD (fresh capacity rate now) = bucket at before
  rintro _ ⟨⟩
  have enough := before bucket rfl
  by_cases nothing : bucket.earned now = 0
  · rw [refill_of_earned_eq_zero nothing]
    exact enough
  · rw [refill_of_earned_ne_zero nothing]
    simp only
    omega

/-- Only what is paid adds to the tokens that are missing. -/
theorem Touch.lacksAtMost (touch : Touch capacity rate cost now old effect new)
    (lacks : LacksAtMost missing old) : LacksAtMost (missing + effect.amount) new := by
  cases touch with
  | look old => exact lacks.refill_getD capacity rate now
  | pay affordable =>
      have refilled := lacks.refill_getD capacity rate now _ rfl
      rintro _ ⟨⟩
      simp only [withdraw, Effect.amount]
      omega
  | fill bucket =>
      rintro _ ⟨⟩
      exact Nat.le_add_right bucket.capacity _
  | forget full => rintro _ ⟨⟩
  | miss nothing => rintro _ ⟨⟩

end Bucket

namespace Throttle

variable {now : Instant} {first second : Throttle} {deeds : List Deed} {dimension value : String}
  {missing : Nat}

theorem Move.lacksAtMost (move : Move now first deeds second)
    (lacks : Bucket.LacksAtMost missing (first.bucketAt? dimension value)) :
    Bucket.LacksAtMost (missing + withdrawn dimension value deeds)
      (second.bucketAt? dimension value) := by
  rcases move.bucketAt?_cases dimension value with ⟨same, unpaid⟩ | ⟨_, _, _, touch, paid, _⟩
  · rw [same, unpaid]
    exact lacks
  · rw [paid]
    exact touch.lacksAtMost lacks

theorem Moves.lacksAtMost (moves : Moves now first deeds second)
    (lacks : Bucket.LacksAtMost missing (first.bucketAt? dimension value)) :
    Bucket.LacksAtMost (missing + withdrawn dimension value deeds)
      (second.bucketAt? dimension value) := by
  induction moves generalizing missing with
  | none throttle => exact lacks
  | more move others inductionHypothesis =>
      rw [withdrawn_append, ← Nat.add_assoc]
      exact inductionHypothesis (move.lacksAtMost lacks)

/-- An eviction adds nothing to the tokens that are missing from what is left. -/
theorem lacksAtMost_of_evict {key : String} (evicted : first.evict key = .ok second)
    (lacks : Bucket.LacksAtMost missing (first.bucketAt? dimension value)) :
    Bucket.LacksAtMost missing (second.bucketAt? dimension value) := by
  rcases bucketAt?_of_evict evicted dimension value with gone | same
  · rw [gone]
    rintro _ ⟨⟩
  · rw [same]
    exact lacks

end Throttle

/-! ### Open sweeps -/

/-- A sweep between two deletions: the throttle and the keys that are yet to be deleted. -/
structure OpenSweep where
  throttle : Throttle
  pending : List String

/-- A sweep that has selected its keys and deleted none of them. -/
def Throttle.openSweep (throttle : Throttle) (ttl : Duration) (now : Instant) : OpenSweep :=
  ⟨throttle, Sweep.expired throttle.buckets ttl now⟩

namespace OpenSweep

/-- What can happen while a sweep is open. -/
inductive Turn
  | check (identity : Identity) (now : Instant)
  | delete
  deriving DecidableEq

/-- The state after one turn.  A deletion that fails is the last one. -/
def step (sweep : OpenSweep) : Turn → OpenSweep
  | .check identity now => { sweep with throttle := (sweep.throttle.satisfy identity now).2 }
  | .delete =>
      match sweep.pending with
      | [] => sweep
      | key :: rest =>
          match sweep.throttle.evict key with
          | .error _ => { sweep with pending := [] }
          | .ok throttle => ⟨throttle, rest⟩

/-- The state after some turns. -/
def run (sweep : OpenSweep) (turns : List Turn) : OpenSweep :=
  turns.foldl step sweep

/-- What clients can notice of a turn. -/
def turnDeeds (sweep : OpenSweep) : Turn → List Deed
  | .check identity now => sweep.throttle.checkDeeds identity now
  | .delete => []

/-- What clients can notice of some turns. -/
def deeds (sweep : OpenSweep) : List Turn → List Deed
  | [] => []
  | turn :: turns => sweep.turnDeeds turn ++ (sweep.step turn).deeds turns

@[simp] theorem run_nil (sweep : OpenSweep) : sweep.run [] = sweep := rfl

@[simp] theorem run_cons (sweep : OpenSweep) (turn : Turn) (turns : List Turn) :
    sweep.run (turn :: turns) = (sweep.step turn).run turns := rfl

/-- As many deletions as there are keys, and no checks, do what the deletions of a sweep do. -/
theorem run_deletions (sweep : OpenSweep) :
    (sweep.run (List.replicate sweep.pending.length .delete)).throttle =
      (Sweep.deleteAll Throttle.evict sweep.pending 0 sweep.throttle).state := by
  obtain ⟨throttle, pending⟩ := sweep
  have idle (throttle : Throttle) (count : Nat) :
      (run ⟨throttle, []⟩ (List.replicate count .delete)).throttle = throttle := by
    induction count with
    | zero => rfl
    | succ more inductionHypothesis => exact inductionHypothesis
  induction pending generalizing throttle with
  | nil => rfl
  | cons key rest inductionHypothesis =>
      simp only [List.length_cons, List.replicate_succ, run_cons, step, Sweep.deleteAll]
      cases throttle.evict key with
      | error fault => exact idle throttle rest.length
      | ok after => exact inductionHypothesis after

/-- A sweep into which nothing comes. -/
theorem run_openSweep (throttle : Throttle) (ttl : Duration) (now : Instant) :
    ((throttle.openSweep ttl now).run
      (List.replicate (throttle.openSweep ttl now).pending.length .delete)).throttle =
      (throttle.sweep ttl now 0).state :=
  run_deletions (throttle.openSweep ttl now)

variable {sweep : OpenSweep}

/-! ### What the turns leave alone -/

/-- No turn adds to the keys that are yet to be deleted. -/
theorem pending_step_suffix (sweep : OpenSweep) (turn : Turn) :
    (sweep.step turn).pending <:+ sweep.pending := by
  cases turn with
  | check identity now => exact List.suffix_refl sweep.pending
  | delete =>
      cases waiting : sweep.pending with
      | nil =>
          simp only [step, waiting]
          exact List.suffix_refl []
      | cons key rest =>
          simp only [step, waiting]
          cases sweep.throttle.evict key with
          | error fault => exact List.nil_suffix
          | ok after => exact List.suffix_cons key rest

theorem pending_run_suffix (sweep : OpenSweep) (turns : List Turn) :
    (sweep.run turns).pending <:+ sweep.pending := by
  induction turns generalizing sweep with
  | nil => exact List.suffix_refl sweep.pending
  | cons turn rest inductionHypothesis =>
      exact (inductionHypothesis (sweep.step turn)).trans (sweep.pending_step_suffix turn)

/-- A deletion evicts a bucket, or nothing happens to the throttle. -/
theorem throttle_step_delete (sweep : OpenSweep) :
    (sweep.step .delete).throttle = sweep.throttle ∨
      ∃ key, sweep.throttle.evict key = .ok (sweep.step .delete).throttle := by
  cases waiting : sweep.pending with
  | nil => exact .inl (by simp only [step, waiting])
  | cons key rest =>
      simp only [step, waiting]
      cases evicted : sweep.throttle.evict key with
      | error fault => exact .inl rfl
      | ok after => exact .inr ⟨key, evicted⟩

section Preserves

variable (Invariant : Throttle → Prop)
  (checked : ∀ {throttle : Throttle} (identity : Identity) (now : Instant),
    Invariant throttle → Invariant (throttle.satisfy identity now).2)
  (evicted : ∀ {first second : Throttle} {key : String},
    first.evict key = .ok second → Invariant first → Invariant second)

include checked evicted

/-- What checks and evictions preserve holds after every run. -/
theorem run_preserves (sweep : OpenSweep) (holds : Invariant sweep.throttle)
    (turns : List Turn) : Invariant (sweep.run turns).throttle := by
  induction turns generalizing sweep with
  | nil => exact holds
  | cons turn rest inductionHypothesis =>
      refine inductionHypothesis (sweep.step turn) ?_
      cases turn with
      | check identity now => exact checked identity now holds
      | delete =>
          rcases sweep.throttle_step_delete with same | ⟨key, deleted⟩
          · rw [same]
            exact holds
          · exact evicted deleted holds

end Preserves

theorem sound_run (sweep : OpenSweep) (sound : sweep.throttle.Sound) (turns : List Turn) :
    (sweep.run turns).throttle.Sound :=
  run_preserves Throttle.Sound
    (fun {throttle} identity now sound => (throttle.moves_satisfy identity now).sound sound)
    Throttle.sound_of_evict sweep sound turns

/-- Once there are meters, everything but the buckets is left alone. -/
theorem bare_run (sweep : OpenSweep) (made : sweep.throttle.meters ≠ none) (turns : List Turn) :
    (sweep.run turns).throttle.bare = sweep.throttle.bare := by
  refine run_preserves (fun throttle => throttle.bare = sweep.throttle.bare) ?_ ?_ sweep rfl turns
  · intro throttle identity now bare_eq
    have madeStill := Throttle.made_of_bare_eq bare_eq made
    rw [Throttle.satisfy_eq_visit]
    exact (Throttle.bare_visit madeStill () identity).trans bare_eq
  · intro first second key evicted bare_eq
    obtain ⟨dimension, value, meter, -, served, rfl⟩ := Throttle.exists_of_evict evicted
    exact (Throttle.bare_withMeter served (meter.bare_withBucket value none)).trans bare_eq

/-! ### What is missing from a bucket while a sweep is open -/

variable {dimension value : String} {missing : Nat}

theorem lacksAtMost_step
    (lacks : Bucket.LacksAtMost missing (sweep.throttle.bucketAt? dimension value)) (turn : Turn) :
    Bucket.LacksAtMost (missing + withdrawn dimension value (sweep.turnDeeds turn))
      ((sweep.step turn).throttle.bucketAt? dimension value) := by
  cases turn with
  | check identity now => exact (sweep.throttle.moves_satisfy identity now).lacksAtMost lacks
  | delete =>
      rcases sweep.throttle_step_delete with same | ⟨key, deleted⟩
      · rw [same]
        exact lacks
      · exact Throttle.lacksAtMost_of_evict deleted lacks

theorem lacksAtMost_run
    (lacks : Bucket.LacksAtMost missing (sweep.throttle.bucketAt? dimension value))
    (turns : List Turn) :
    Bucket.LacksAtMost (missing + withdrawn dimension value (sweep.deeds turns))
      ((sweep.run turns).throttle.bucketAt? dimension value) := by
  induction turns generalizing sweep missing with
  | nil => exact lacks
  | cons turn rest inductionHypothesis =>
      rw [deeds, withdrawn_append, ← Nat.add_assoc]
      exact inductionHypothesis (lacksAtMost_step lacks turn)

/-! ### What a sweep deletes -/

/-- If the dimensions have proper names, the next key that a sweep deletes is that of a bucket that
had expired when it was selected, whatever checks came in between.  Its deletion takes this bucket
away and no other.  The tokens that are missing from it then were paid since the selection, so it
is full if there were no such payments. -/
theorem deletes_expired (throttle : Throttle) (reachable : throttle.Reachable)
    (named : ∀ dimension ∈ throttle.dimensions, isDimensionName dimension = true)
    (ttl : Duration) (now : Instant) (turns : List Turn) {key : String} {rest : List String}
    (next : ((throttle.openSweep ttl now).run turns).pending = key :: rest) :
    let opened := throttle.openSweep ttl now
    let reached := opened.run turns
    ∃ dimension value bucket,
      key = bucketKey dimension value ∧
      throttle.bucketAt? dimension value = some bucket ∧
      Sweep.isExpired ttl now bucket = true ∧
      (reached.step .delete).pending = rest ∧
      (∀ other name, (reached.step .delete).throttle.bucketAt? other name =
        if (other, name) = (dimension, value) then none
        else reached.throttle.bucketAt? other name) ∧
      ∀ held, reached.throttle.bucketAt? dimension value = some held →
        held.capacity ≤ held.tokens + withdrawn dimension value (opened.deeds turns) ∧
        (withdrawn dimension value (opened.deeds turns) = 0 → held.isFull = true) := by
  intro opened reached
  have selected : key ∈ (throttle.expiredPairs ttl now).map Throttle.keyOf := by
    rw [← Throttle.expired_buckets named]
    exact (opened.pending_run_suffix turns).subset (next ▸ List.mem_cons_self)
  obtain ⟨⟨dimension, value⟩, expiredPair, rfl⟩ := List.mem_map.1 selected
  obtain ⟨bucket, found, expired⟩ := Throttle.mem_expiredPairs_iff.1 expiredPair
  have made : throttle.meters ≠ none := by
    intro unmade
    rw [Throttle.bucketAt?_of_none unmade] at found
    cases found
  -- The dimensions are still the same, so the key still leads to the value.
  have bare_eq : reached.throttle.bare = throttle.bare := opened.bare_run made turns
  have served : dimension ∈ reached.throttle.dimensions := by
    obtain ⟨meter, served, -⟩ := Throttle.exists_meter_of_bucketAt? found
    rw [Throttle.dimensions_of_bare_eq bare_eq]
    exact Throttle.mem_dimensions_of_find? served
  obtain ⟨after, evicted, lost⟩ :=
    @Throttle.lost_of_evict _ (dimension, value) served (Throttle.servesNamed_of_bare_eq bare_eq named)
  have stepped : reached.step .delete = ⟨after, rest⟩ := by
    simp only [step, reached, opened, next, evicted]
  have lacks : Bucket.LacksAtMost 0 (opened.throttle.bucketAt? dimension value) :=
    found ▸ Bucket.lacksAtMost_of_isExpired expired
  refine ⟨dimension, value, bucket, rfl, found, expired, by rw [stepped], ?_, ?_⟩
  · intro other name
    rw [stepped, lost.bucketAt?_eq]
    simp only [List.mem_singleton]
  · intro held heldThere
    have enough := lacksAtMost_run lacks turns held heldThere
    rw [Nat.zero_add] at enough
    refine ⟨enough, fun unpaid => ?_⟩
    obtain ⟨meter, servedNow, -⟩ := Throttle.exists_meter_of_bucketAt? heldThere
    have sound : reached.throttle.Sound := opened.sound_run reachable.sound turns
    have fits := sound.fits_bucketAt? servedNow value held heldThere
    rw [unpaid] at enough
    exact beq_iff_eq.2 (Nat.le_antisymm (fits.capacity_eq ▸ fits.tokens_le) enough)

/-- The login of a client. -/
def client : Identity :=
  .ofPairs [("login", "root")]

/-- A throttle after an attempt of the client that was forgiven. -/
def rested : Throttle :=
  (Station.run (.new ⟨.new .never, .new (.reliable [.plain "login" 3]) ⟨1, ⟨5⟩⟩⟩)
    [.check .throttle client, .reset .throttle client]).guard.throttle

/-- The attempt between selection and deletion is what is missing when the bucket goes. -/
theorem rested_deletes :
    ((rested.openSweep ⟨5⟩ ⟨10⟩).run [.check client ⟨10⟩]).pending = ["login_root"] ∧
      ∃ dimension value bucket, "login_root" = bucketKey dimension value ∧
        rested.bucketAt? dimension value = some bucket ∧ bucket.isFull = true := by
  have reachable : rested.Reachable := ⟨_, _, rfl, rfl⟩
  have next : ((rested.openSweep ⟨5⟩ ⟨10⟩).run [.check client ⟨10⟩]).pending = ["login_root"] := by
    decide +kernel
  obtain ⟨dimension, value, bucket, same, found, expired, -⟩ :=
    deletes_expired rested reachable (by decide +kernel) ⟨5⟩ ⟨10⟩ [.check client ⟨10⟩] next
  exact ⟨next, dimension, value, bucket, same, found, (Bool.and_eq_true_iff.1 expired).1⟩

/-- A sweep does forget payments: an attempt is paid from a bucket that was full and idle when it
was selected, the bucket is deleted below its capacity, and the client has one attempt more. -/
theorem forgets_payment :
    rested.Reachable ∧ (∀ dimension ∈ rested.dimensions, isDimensionName dimension = true) ∧
      let reached := (rested.openSweep ⟨5⟩ ⟨10⟩).run [.check client ⟨10⟩]
      reached.pending = ["login_root"] ∧
      reached.throttle.bucketAt? "login" "root" = some ⟨3, ⟨1, ⟨5⟩⟩, 2, ⟨10⟩⟩ ∧
      (reached.step .delete).throttle.bucketAt? "login" "root" = none ∧
      (reached.throttle.allowed client ⟨10⟩).1 = .ok 2 ∧
      ((reached.step .delete).throttle.allowed client ⟨10⟩).1 = .ok 3 :=
  ⟨⟨_, _, rfl, rfl⟩, by decide +kernel, by decide +kernel, by decide +kernel, by decide +kernel,
    by decide +kernel, by decide +kernel⟩

end OpenSweep

end LoginThrottle
