import LoginThrottle.Proofs.Guard.Linearization
import LoginThrottle.Proofs.Station.Invariant
import LoginThrottle.Proofs.Throttle.Opening

/-!
# The opening of a station's throttle

Of all that can happen at a station only checks and questions that come to the throttle have a
say in which meters it gets.  They ask one after the other, even if they overlap.

## Main Definitions

* `Station.comers`: the identities that an event brings to the throttle
* `Station.openingAfter`: the opening after a run

## Main Statements

* `Station.follows_step`, `Station.follows_run`: the throttle is as the opening says
* `Station.opens_once`: so it is opened by the first for whom limits are found, and stays as it
  is then
-/

namespace LoginThrottle

open Throttle (Follows)

namespace Guard

/-- Who comes to the throttle when an identity is checked at a gate. -/
def comers (guard : Guard) (gate : Gate) (identity : Identity) : List Identity :=
  match gate with
  | .throttle => [identity]
  | .login =>
      match (guard.screen identity).1 with
      | .ok .undecided => [identity]
      | _ => []
  | .list _ => []

/-- Who comes to the throttle when identities are checked one after the other. -/
def comersEach (guard : Guard) (gate : Gate) (identities : List Identity) (now : Instant) :
    List Identity :=
  match identities with
  | [] => []
  | identity :: others =>
      guard.comers gate identity ++ (guard.check gate identity now).2.comersEach gate others now

variable {store : LimitStore} {guard : Guard} {opening : Opening}

theorem follows_check (follows : Follows store guard.throttle opening) (gate : Gate)
    (identity : Identity) (now : Instant) :
    Follows store (guard.check gate identity now).2.throttle
      ((guard.comers gate identity).foldl (Opening.ask store) opening) := by
  cases gate with
  | throttle => exact follows.satisfy identity now
  | list kind =>
      rw [check, throttle_checkList]
      exact follows
  | login =>
      have screened := guard.throttle_screen identity
      rw [check, comers, decide]
      generalize guard.screen identity = asked at screened
      obtain ⟨result, after⟩ := asked
      rw [← screened] at follows
      rcases result with fault | _ | _ | _
      · exact follows
      · exact follows
      · exact follows
      · exact follows.satisfy identity now

theorem follows_checkEach (follows : Follows store guard.throttle opening) (gate : Gate)
    (identities : List Identity) (now : Instant) :
    Follows store (guard.checkEach gate identities now).2.throttle
      ((guard.comersEach gate identities now).foldl (Opening.ask store) opening) := by
  induction identities generalizing guard opening with
  | nil => exact follows
  | cons identity others inductionHypothesis =>
      rw [comersEach, List.foldl_append]
      exact inductionHypothesis (follows_check follows gate identity now)

end Guard

namespace Station

/-- Who comes to the throttle in an event, one after the other. -/
def comers (station : Station) : Event → List Identity
  | .check gate identity => station.guard.comers gate identity
  | .checkAll gate identities => station.guard.comersEach gate identities station.now
  | .allowed identity => [identity]
  | _ => []

/-- The opening after a run.  Each of those who come to the throttle asks. -/
def openingAfter (store : LimitStore) (opening : Opening) (station : Station) :
    List Event → Opening
  | [] => opening
  | event :: events =>
      (station.step event).station.openingAfter store
        ((station.comers event).foldl (Opening.ask store) opening) events

variable {store : LimitStore} {station : Station} {opening : Opening}

theorem follows_react (follows : Follows store station.guard.throttle opening) (event : Event) :
    Follows store (station.react event).2.guard.throttle
      ((station.comers event).foldl (Opening.ask store) opening) := by
  cases event with
  | check gate identity => exact Guard.follows_check follows gate identity station.now
  | checkAll gate identities =>
      rw [react, Guard.checkAll_eq_checkEach]
      exact Guard.follows_checkEach follows gate identities station.now
  | allowed identity => exact follows.allowed identity station.now
  | reset gate identity =>
      cases gate with
      | list kind => exact follows
      | _ => exact follows.reset identity station.now
  | setCost cost => exact follows.setCost cost
  | evict key =>
      simp only [react]
      cases evicted : station.guard.throttle.evict key with
      | error fault => exact follows
      | ok after => exact follows.of_evict evicted
  | withdraw key cost =>
      simp only [react]
      cases adjusted : station.guard.throttle.adjustBucket key
          (fun bucket => bucket.withdraw cost) with
      | none => exact follows
      | some after => exact follows.of_withdraw adjusted
  | sweep ttl failures =>
      exact Throttle.sweep_preserves (fun throttle => Follows store throttle _)
        (fun evicted kept => kept.of_evict evicted) ttl station.now failures follows
  | _ => exact follows

/-- The throttle is as the opening says, after an event and the sweeps behind it. -/
theorem follows_step (follows : Follows store station.guard.throttle opening) (event : Event) :
    Follows store (station.step event).station.guard.throttle
      ((station.comers event).foldl (Opening.ask store) opening) :=
  Throttle.runDue_preserves (fun throttle => Follows store throttle _)
    (fun evicted kept => kept.of_evict evicted) _ _ (follows_react follows event)

theorem follows_run (follows : Follows store station.guard.throttle opening)
    (events : List Event) :
    Follows store (station.run events).guard.throttle
      (station.openingAfter store opening events) := by
  induction events generalizing station opening with
  | nil => exact follows
  | cons event rest inductionHypothesis =>
      rw [run_cons, openingAfter]
      exact inductionHypothesis (follows_step follows event)

/-- Of an opening that has found its opener nothing changes any more. -/
theorem laidOut_run {capacity : String → Option Nat}
    (laidOut : station.guard.throttle.LaidOut store capacity) (events : List Event) :
    (station.run events).guard.throttle.LaidOut store capacity :=
  run_preserves (fun throttle => throttle.LaidOut store capacity)
    (fun move kept => move.laidOut kept) Throttle.laidOut_of_evict Throttle.laidOut_of_withdraw
    station events laidOut

/-- A throttle is opened by the first of those who come to it that names something and for whom
a fetch finds a limit.  Until then it has neither dimensions nor buckets, everybody who names
something has one fetch made that fails or finds nothing, and nobody can be forgiven.  From then
on it serves the dimensions of its opener that have a limit, with the capacities of the last
limits for them, and nothing that happens later changes that or fetches again.  Whoever names
nothing is always refused without a fetch. -/
theorem opens_once (store : LimitStore) (rate : RefillRate) (rules : RuleStore) (watch : Watch)
    (now : Instant) (events : List Event) :
    let station : Station := ⟨now, ⟨rules, .new store rate⟩, watch⟩
    let opening := station.openingAfter store ⟨store.fetches, none⟩ events
    let reached := (station.run events).guard.throttle
    reached.store = store.fetched opening.fetches ∧
    (opening.opener = none →
      reached.dimensions = [] ∧ reached.buckets = Keyed.empty ∧ reached.bucketCount = 0 ∧
      ∀ identity reading, identity.isEmpty = false →
        reached.reset identity reading = (.error .noLimitsFound, reached) ∧
        (reached.store.findsFor identity = false →
          ∃ fault, reached.store.FailsWith identity fault ∧
            let refused := { reached with store := reached.store.counted }
            reached.satisfy identity reading = (.error fault, refused) ∧
            reached.allowed identity reading = (.error fault, refused))) ∧
    (∀ opener, opening.opener = some opener →
      ∀ later, let final := ((station.run events).run later).guard.throttle
        final.store = reached.store ∧
        (∀ dimension, dimension ∈ final.dimensions ↔
          dimension ∈ opener.dimensions ∧ ∃ limit ∈ store.limits, limit.dimension = dimension) ∧
        ∀ dimension ∈ opener.dimensions,
          final.capacityAt? dimension = Limit.capacityOf? store.limits dimension) ∧
    ∀ identity reading, identity.isEmpty = true →
      reached.satisfy identity reading = (.error .incorrectIdentity, reached) ∧
      reached.allowed identity reading = (.error .incorrectIdentity, reached) ∧
      reached.reset identity reading = (.error .incorrectIdentity, reached) := by
  intro station opening reached
  have begun : Follows store station.guard.throttle ⟨store.fetches, none⟩ := .closed rfl rfl
  have follows : Follows store reached opening := follows_run begun events
  refine ⟨follows.store_eq, ?_, ?_, ?_⟩
  · intro closed
    have unmade := follows.unmade closed
    refine ⟨Throttle.dimensions_of_none unmade, Throttle.buckets_of_none unmade,
      Throttle.bucketCount_of_none unmade, fun identity reading named => ⟨?_, fun misses => ?_⟩⟩
    · exact Throttle.reset_of_none unmade named reading
    · exact Throttle.exists_fault_of_none unmade named misses reading
  · intro opener opened later final
    have laidOut := laidOut_run (follows.laidOut opened) later
    refine ⟨laidOut.store_eq.trans follows.store_eq.symm, fun dimension => ?_, ?_⟩
    · rw [Throttle.mem_dimensions_iff, laidOut.capacityAt?_eq, LimitStore.capacityFor_ne_none_iff]
    · intro dimension member
      rw [laidOut.capacityAt?_eq, LimitStore.capacityFor, if_pos member]
  · intro identity reading nameless
    exact ⟨reached.satisfy_of_isEmpty nameless reading, reached.allowed_of_isEmpty nameless reading,
      reached.reset_of_isEmpty nameless reading⟩

/-- A store with two limits for addresses, whose first fetch fails. -/
def lateLimits : LimitStore :=
  .failingAtFirst [.plain "ip" 5, .plain "login" 7, .plain "ip" 3] 1

/-- Nobody, a client that meets with the failure, somebody without limits and, in the middle of
three checks that overlap, the client again. -/
def lateComers : List Event :=
  let client := Identity.ofClient "10.0.0.8" "root"
  let nobodyKnown := Identity.ofPairs [("password", "pw")]
  [.allowed .empty, .check .throttle client, .allowed nobodyKnown,
    .checkAll .throttle [nobodyKnown, client, .ofPairs [("ip", "10.0.0.9")]], .setCost 2]

/-- The fourth fetch opens the throttle for the client, and whatever happens then, addresses
keep the later one of their limits and there is no fifth fetch. -/
theorem lateComers_open :
    let station : Station := ⟨.origin, ⟨.new .never, .new lateLimits ⟨1, ⟨5⟩⟩⟩, .absent⟩
    station.openingAfter lateLimits ⟨0, none⟩ lateComers =
        ⟨4, some (Identity.ofClient "10.0.0.8" "root")⟩ ∧
      ∀ later, let final := ((station.run lateComers).run later).guard.throttle
        final.store.fetches = 4 ∧ final.capacityAt? "ip" = some 3 := by
  intro station
  have opened : station.openingAfter lateLimits ⟨0, none⟩ lateComers =
      ⟨4, some (Identity.ofClient "10.0.0.8" "root")⟩ := by decide +kernel
  obtain ⟨counted, -, stays, -⟩ :=
    opens_once lateLimits ⟨1, ⟨5⟩⟩ (.new .never) .absent .origin lateComers
  refine ⟨opened, fun later => ?_⟩
  obtain ⟨same, -, limited⟩ := stays _ (congrArg Opening.opener opened) later
  have addressed : "ip" ∈ (Identity.ofClient "10.0.0.8" "root").dimensions := by decide +kernel
  refine ⟨?_, (limited "ip" addressed).trans (by decide +kernel)⟩
  rw [same, counted]
  exact congrArg Opening.fetches opened

end Station

end LoginThrottle
