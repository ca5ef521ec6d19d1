import LoginThrottle.Proofs.Guard.Overlap
import LoginThrottle.Proofs.Guard.Settlement
import LoginThrottle.Proofs.Throttle.Layout

/-!
# What a caller does when it goes on

A caller goes on in one of six ways.  Three of them have nothing to do with the throttle: the
check is over or ends at the lists, or the caller waits for its turn.  In the others it passes
the meters, asks for limits or learns which there are.

## Main Definitions

* `Caller.isPending`: the check has come to the meters and is not over
* `Caller.Advance`: the ways to go on, with what each leaves of the check

## Main Statements

* `Caller.poll_advance`: a caller goes on in one of these ways
-/

namespace LoginThrottle

namespace Caller

/-- The check has come to the meters and is not over. -/
def isPending : Caller → Bool
  | .waiting _ => true
  | .fetching _ _ => true
  | _ => false

theorem isOver_of_not_pending {caller : Caller} (begun : caller.HasBegun)
    (idle : caller.isPending = false) : caller.IsOver := by
  cases caller with
  | arriving identity => exact absurd begun id
  | waiting identity => cases idle
  | fetching identity answer => cases idle
  | finished result => exact ⟨result, rfl⟩

/-! ### Everything that a caller can do -/

/-- What a caller can do when it goes on, with what is left of its check. -/
inductive Advance (number : Nat) (gate : Gate) (now : Instant) (room : Room) :
    Caller → Caller × Room → Prop
  /-- It is over, or the lists end it. -/
  | decide {caller : Caller} {result : Except Fault Bool} {rules : RuleStore}
      (idle : caller.isPending = false)
      (same : ∀ throttle, caller.settle gate now ⟨room.guard.rules, throttle⟩ =
        (result, ⟨rules, throttle⟩)) :
      Advance number gate now room caller
        (.finished result, { room with guard := ⟨rules, room.guard.throttle⟩ })
  /-- It gets in line behind a caller that fetches. -/
  | queue {identity : Identity} {rules : RuleStore}
      (unmade : room.guard.throttle.meters = none) (busy : room.holder ≠ none)
      (same : ∀ throttle, (arriving identity).settle gate now ⟨room.guard.rules, throttle⟩ =
        (waiting identity).settle gate now ⟨rules, throttle⟩) :
      Advance number gate now room (.arriving identity)
        (.waiting identity,
          { room with
            guard := ⟨rules, room.guard.throttle⟩
            queue := room.queue ++ [number] })
  | stay {identity : Identity} (unmade : room.guard.throttle.meters = none)
      (other : room.holder ≠ some number) :
      Advance number gate now room (.waiting identity) (.waiting identity, room)
  | pass {caller : Caller} {result : Except Fault Bool} {guard : Guard}
      (made : room.guard.throttle.meters ≠ none) (still : guard.throttle.meters ≠ none)
      (settled : caller.settle gate now room.guard = (result, guard)) :
      Advance number gate now room caller (.finished result, { room with guard := guard })
  /-- It asks for limits, since it is its turn or nobody has it. -/
  | ask {caller : Caller} {identity : Identity} {rules : RuleStore}
      (unmade : room.guard.throttle.meters = none)
      (turn : caller = .arriving identity ∧ room.holder = none ∨
        caller = .waiting identity ∧ room.holder = some number)
      (settled : caller.settle gate now room.guard =
        (waiting identity).settle gate now ⟨rules, room.guard.throttle⟩) :
      Advance number gate now room caller
        (beginFetch number identity { room with guard := ⟨rules, room.guard.throttle⟩ })
  | learn {identity : Identity} {answer : Except Fault (List Limit)}
      {result : Except Fault Bool} {after : Room}
      (holder_eq : after.holder = room.queue.head?) (queue_eq : after.queue = room.queue.tail)
      (settled : (fetching identity answer).settle gate now room.guard = (result, after.guard)) :
      Advance number gate now room (.fetching identity answer) (.finished result, after)

section Advance

variable {number : Nat} {gate : Gate} {now : Instant} {room : Room} {identity : Identity}

/-- Meters that exist stay through a check. -/
theorem made_check (made : room.guard.throttle.meters ≠ none) :
    (room.guard.check .throttle identity now).2.throttle.meters ≠ none :=
  ((room.guard.throttle.moves_satisfy identity now).laidOut (Throttle.laidOut_self made)).made

theorem isInitialized_eq_true_iff {throttle : Throttle} :
    throttle.isInitialized = true ↔ throttle.meters ≠ none := by
  rw [Throttle.isInitialized, Option.isSome_iff_ne_none]

/-- A caller that the lists leave to the throttle passes the meters, asks for limits or gets in
line. -/
theorem approach_advance {rules : RuleStore}
    (same : ∀ throttle, (arriving identity).settle gate now ⟨room.guard.rules, throttle⟩ =
      (waiting identity).settle gate now ⟨rules, throttle⟩) :
    Advance number gate now room (.arriving identity)
      (approach number identity now { room with guard := ⟨rules, room.guard.throttle⟩ }) := by
  have settled := same room.guard.throttle
  unfold approach
  simp only
  split
  · next initialized =>
      have made := isInitialized_eq_true_iff.1 initialized
      have still := @made_check now { room with guard := ⟨rules, _⟩ } identity made
      refine .pass made still (settled.trans ?_)
      exact if_pos initialized
  · next uninitialized =>
      have unmade := isInitialized_eq_false_iff.1 (eq_false_of_ne_true uninitialized)
      split
      · next free => exact .ask unmade (.inl ⟨rfl, free⟩) settled
      · next holder busy => exact .queue unmade (by rw [busy]; exact Option.some_ne_none _) same

theorem arrive_advance (number : Nat) (gate : Gate) (identity : Identity) (now : Instant)
    (room : Room) :
    Advance number gate now room (.arriving identity) (arrive number gate identity now room) := by
  cases gate with
  | list kind =>
      have spared := room.guard.throttle_checkList kind identity
      have same throttle := room.guard.checkList_eq_of_throttle throttle kind identity
      simp only [arrive, Guard.check]
      generalize room.guard.checkList kind identity = asked at spared same
      obtain ⟨result, rules, throttle⟩ := asked
      obtain rfl : throttle = room.guard.throttle := spared
      exact .decide rfl same
  | throttle =>
      simp only [arrive]
      split
      · next empty =>
          refine @Advance.decide number .throttle now room _ _ room.guard.rules rfl ?_
          intro throttle
          simp only [settle, Guard.check, Guard.withThrottle, Throttle.satisfy, empty, if_true]
      · next named =>
          refine @approach_advance number .throttle now room identity room.guard.rules ?_
          intro throttle
          exact (Guard.conclude_eq_check (eq_false_of_ne_true named) _ now).symm
  | login =>
      have spared := room.guard.throttle_screen identity
      have same throttle : (arriving identity).settle .login now ⟨room.guard.rules, throttle⟩ =
          (screened identity (room.guard.screen identity).1).settle .login now
            { (room.guard.screen identity).2 with throttle := throttle } := by
        rw [settle_login, room.guard.screen_eq_of_throttle throttle identity]
      simp only [arrive]
      generalize room.guard.screen identity = asked at spared same
      obtain ⟨result, rules, throttle⟩ := asked
      obtain rfl : throttle = room.guard.throttle := spared
      rcases result with fault | _ | _ | _
      · exact .decide rfl same
      · exact .decide rfl same
      · exact .decide rfl same
      · exact approach_advance same

theorem release_eq (room : Room) :
    room.release.holder = room.queue.head? ∧ room.release.queue = room.queue.tail := by
  unfold Room.release
  split <;> simp [*]

/-- What a caller does when it goes on. -/
theorem poll_advance (number : Nat) (gate : Gate) (now : Instant) (room : Room)
    (caller : Caller) : Advance number gate now room caller (caller.poll number gate now room) := by
  cases caller with
  | arriving identity => exact arrive_advance number gate identity now room
  | waiting identity =>
      simp only [poll]
      split
      · next initialized =>
          have made := isInitialized_eq_true_iff.1 initialized
          exact .pass made (made_check made) (if_pos initialized)
      · next uninitialized =>
          have unmade := isInitialized_eq_false_iff.1 (eq_false_of_ne_true uninitialized)
          split
          · next turn => exact .ask unmade (.inr ⟨rfl, turn⟩) rfl
          · next other => exact .stay unmade other
  | fetching identity answer =>
      simp only [poll, endFetch]
      cases adopted : room.guard.throttle.adopt answer with
      | mk made throttle =>
          have released := release_eq
            { room with guard := { room.guard with throttle := throttle } }
          cases made with
          | error fault =>
              refine .learn released.1 released.2 ?_
              simp only [settle, Guard.concludeWith, adopted, guard_release]
          | ok meters =>
              refine .learn released.1 released.2 ?_
              simp only [settle, Guard.concludeWith, adopted, guard_release]
              rfl
  | finished result => exact .decide rfl fun _ => rfl

end Advance

end Caller

end LoginThrottle
