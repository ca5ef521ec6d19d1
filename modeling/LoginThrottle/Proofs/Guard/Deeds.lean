import LoginThrottle.Guard
import LoginThrottle.Proofs.Throttle.Operations

/-!
# The deeds of a guard

The lists are asked without a trace in the throttle.  So the deeds of a guard are those of its
throttle, once the lists have left an attempt to it.

## Main Definitions

* `Guard.checkDeeds`: the deeds of a check at a gate
* `Guard.forgivals`: what a reset at a gate is asked to fill up

## Main Statements

* `Guard.screen_preserves`: what a list limiter preserves is preserved when the lists are asked
* `Guard.moves_check`, `Guard.moves_reset`: checks and resets make moves with these deeds
-/

namespace LoginThrottle

namespace Guard

theorem throttle_checkList (guard : Guard) (kind : ListKind) (identity : Identity) :
    (guard.checkList kind identity).2.throttle = guard.throttle := by
  unfold checkList withRules
  cases identity.get? Dimension.ip.name with
  | none => rfl
  | some text =>
      cases answered : guard.rules.isListed text kind with
      | mk result rules => cases result <;> simp [answered]

/-- What a list limiter preserves is preserved when the lists are asked. -/
theorem screen_preserves (Invariant : Guard → Prop) {identity : Identity}
    (keeps : ∀ guard kind, Invariant guard → Invariant (checkList guard kind identity).2)
    {guard : Guard} (holds : Invariant guard) : Invariant (guard.screen identity).2 := by
  unfold screen
  split
  · have asked := keeps guard .black holds
    cases black : guard.checkList .black identity with
    | mk result between =>
        rw [black] at asked
        rcases result with fault | _ | _
        · exact asked
        · exact asked
        · have askedToo := keeps between .white asked
          cases white : between.checkList .white identity with
          | mk result after =>
              rw [white] at askedToo
              rcases result with fault | _ | _ <;> simpa [white] using askedToo
  · exact holds

theorem throttle_screen (guard : Guard) (identity : Identity) :
    (guard.screen identity).2.throttle = guard.throttle :=
  screen_preserves (fun other => other.throttle = guard.throttle)
    (fun other kind same => (other.throttle_checkList kind identity).trans same) rfl

/-- The deeds of a check at a gate.  A login check has some if the lists do not decide it. -/
def checkDeeds (guard : Guard) (gate : Gate) (identity : Identity) (now : Instant) : List Deed :=
  match gate with
  | .throttle => guard.throttle.checkDeeds identity now
  | .login =>
      match (guard.screen identity).1 with
      | .ok .undecided => guard.throttle.checkDeeds identity now
      | _ => []
  | .list _ => []

theorem moves_check (guard : Guard) (gate : Gate) (identity : Identity) (now : Instant) :
    Throttle.Moves now guard.throttle (guard.checkDeeds gate identity now)
      (guard.check gate identity now).2.throttle := by
  cases gate with
  | throttle => exact guard.throttle.moves_satisfy identity now
  | list kind =>
      rw [check, checkDeeds, throttle_checkList]
      exact .none _
  | login =>
      have screened := guard.throttle_screen identity
      rw [check, checkDeeds, decide]
      cases answered : guard.screen identity with
      | mk result after =>
          rw [answered] at screened
          simp only at screened
          rcases result with fault | _ | _ | _
          · exact screened ▸ .none _
          · exact screened ▸ .none _
          · exact screened ▸ .none _
          · simp only [withThrottle, screened]
            exact guard.throttle.moves_satisfy identity now

/-- What a reset at a gate is asked to fill up. -/
def forgivals (gate : Gate) (identity : Identity) : List Deed :=
  match gate with
  | .throttle | .login => Throttle.forgivals identity.pairs
  | .list _ => []

theorem moves_reset (guard : Guard) (gate : Gate) (identity : Identity) (now : Instant) :
    Throttle.Moves now guard.throttle (forgivals gate identity)
      (guard.reset gate identity now).2.throttle := by
  cases gate with
  | list kind => exact .none _
  | _ => exact guard.throttle.moves_reset identity now

end Guard

end LoginThrottle
