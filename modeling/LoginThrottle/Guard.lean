import LoginThrottle.Rule.Membership
import LoginThrottle.Throttle

/-!
# Guards

A guard decides login attempts. An address on the black list never passes, an
address on the white list always does, and everybody else is throttled.

## Main Definitions

* `Guard`: a store of rules and a throttle
* `Gate`: the four places at which an identity can be checked
* `Guard.decide`: the decision of the whole guard on a login attempt
* `Guard.check`, `Guard.reset`: a decision and a reset at a gate

## Design Notes

The black list is asked first, so an address on both lists does not pass. The
throttle is asked only if no list decides. A list that cannot be asked is a fault
and never lets anybody pass.
-/

namespace LoginThrottle

/-- A store of rules and a throttle. -/
structure Guard where
  rules : RuleStore
  throttle : Throttle

/-- The places at which an identity can be checked. -/
inductive Gate
  /-- The throttle alone. -/
  | throttle
  /-- The lists and then the throttle, for login attempts. -/
  | login
  /-- One list alone. -/
  | list (kind : ListKind)
  deriving DecidableEq, Repr

namespace Guard

/-- Passes on what an operation left of the rules. -/
def withRules {Answer : Type} (guard : Guard) (used : Except Fault Answer × RuleStore) :
    Except Fault Answer × Guard :=
  (used.1, { guard with rules := used.2 })

/-- Passes on what an operation left of the throttle. -/
def withThrottle {Answer : Type} (guard : Guard) (used : Except Fault Answer × Throttle) :
    Except Fault Answer × Guard :=
  (used.1, { guard with throttle := used.2 })

/-- Whether a list lets an identity pass: the white list those on it, the black list
those not on it. -/
def checkList (guard : Guard) (kind : ListKind) (identity : Identity) :
    Except Fault Bool × Guard :=
  match identity.get? Dimension.ip.name with
  | none => (.error .incorrectIdentity, guard)
  | some address =>
    match guard.withRules (guard.rules.isListed address kind) with
    | (.error fault, guard) => (.error fault, guard)
    | (.ok listed, guard) =>
      (.ok (match kind with
        | .white => listed
        | .black => !listed), guard)

/-- What the lists say about a login attempt: they may deny it, let it pass or leave it
to the throttle. -/
inductive Screening
  | denied
  | passed
  | undecided
  deriving DecidableEq, Repr

/-- Asks the black list and then the white list about a login attempt. -/
def screen (guard : Guard) (identity : Identity) : Except Fault Screening × Guard :=
  if identity.isAttempt then
    match guard.checkList .black identity with
    | (.error fault, guard) => (.error fault, guard)
    | (.ok false, guard) => (.ok .denied, guard)
    | (.ok true, guard) =>
      match guard.checkList .white identity with
      | (.error fault, guard) => (.error fault, guard)
      | (.ok true, guard) => (.ok .passed, guard)
      | (.ok false, guard) => (.ok .undecided, guard)
  else
    (.error .incorrectIdentity, guard)

/-- Whether a login attempt passes. -/
def decide (guard : Guard) (identity : Identity) (now : Instant) : Except Fault Bool × Guard :=
  match guard.screen identity with
  | (.error fault, guard) => (.error fault, guard)
  | (.ok .denied, guard) => (.ok false, guard)
  | (.ok .passed, guard) => (.ok true, guard)
  | (.ok .undecided, guard) => guard.withThrottle (guard.throttle.satisfy identity now)

/-- Whether an identity passes a gate. -/
def check (guard : Guard) (gate : Gate) (identity : Identity) (now : Instant) :
    Except Fault Bool × Guard :=
  match gate with
  | .throttle => guard.withThrottle (guard.throttle.satisfy identity now)
  | .login => guard.decide identity now
  | .list kind => guard.checkList kind identity

/-- Fills up the buckets of an identity. The lists have none. -/
def reset (guard : Guard) (gate : Gate) (identity : Identity) (now : Instant) :
    Except Fault Unit × Guard :=
  match gate with
  | .throttle | .login => guard.withThrottle (guard.throttle.reset identity now)
  | .list _ => (.error .notSupported, guard)

/-- Counts the attempts of an identity that the throttle would let pass. -/
def allowed (guard : Guard) (identity : Identity) (now : Instant) : Except Fault Nat × Guard :=
  guard.withThrottle (guard.throttle.allowed identity now)

/-- Sets the cost of later attempts. -/
def setCost (guard : Guard) (cost : Nat) : Guard :=
  { guard with throttle := guard.throttle.setCost cost }

end Guard

end LoginThrottle
