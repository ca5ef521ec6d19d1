import LoginThrottle.Guard.Concurrent
import LoginThrottle.Proofs.Guard.Deeds

/-!
# Seeing checks through one after the other

Checks can be seen through one after the other, each from where it is to its end.  Callers that
have begun do so without the lists, and the lists do not see the throttle, so a caller that is
done with the lists may be ahead of others whose turn comes before it.

## Main Definitions

* `Guard.checkEach`: checks one after the other
* `Caller.settle`, `Caller.settleAll`: what is left of a check, and of checks in a row
* `Caller.screened`: where a check is when the lists have spoken
* `Guard.IgnoresRules`: the lists have no say in what is done

## Main Statements

* `Caller.settleAll_arriving`: checks that have not begun are seen through by `checkEach`
* `Caller.settleAll_over`: checks that are over leave nothing to do
* `Caller.settleAll_aside`, `Caller.settleAll_ahead`: two ways for a caller to go on that make
  no difference
-/

namespace LoginThrottle

namespace Guard

/-- Checks identities one after the other. -/
def checkEach (guard : Guard) (gate : Gate) (identities : List Identity) (now : Instant) :
    List (Except Fault Bool) × Guard :=
  match identities with
  | [] => ([], guard)
  | identity :: others =>
      let (result, guard) := guard.check gate identity now
      let (results, guard) := guard.checkEach gate others now
      (result :: results, guard)

/-! ### What is left of a check -/

/-- Takes the answer to a fetch to the end of a check. -/
def concludeWith (guard : Guard) (identity : Identity) (answer : Except Fault (List Limit))
    (now : Instant) : Except Fault Bool × Guard :=
  match guard.throttle.adopt answer with
  | (.error fault, throttle) => (.error fault, { guard with throttle := throttle })
  | (.ok _, throttle) => ({ guard with throttle := throttle } : Guard).check .throttle identity now

/-- Takes an identity from the meters to the end of its check, with a fetch if need be. -/
def conclude (guard : Guard) (identity : Identity) (now : Instant) :
    Except Fault Bool × Guard :=
  if guard.throttle.isInitialized then
    guard.check .throttle identity now
  else
    let (answer, store) := guard.throttle.store.fetch identity.dimensions
    let throttle := { guard.throttle with store := store }
    ({ guard with throttle := throttle } : Guard).concludeWith identity answer now

/-- A check of somebody comes to the meters at once. -/
theorem conclude_eq_check {identity : Identity} (named : identity.isEmpty = false)
    (guard : Guard) (now : Instant) :
    guard.conclude identity now = guard.check .throttle identity now := by
  obtain ⟨rules, store, rate, cost, meters⟩ := guard
  cases meters with
  | some meters => rfl
  | none =>
      simp only [conclude, concludeWith, check, withThrottle, Throttle.isInitialized,
        Throttle.satisfy, Throttle.ensureMeters, named, Option.isSome_none, Bool.false_eq_true,
        if_false]
      generalize store.fetch identity.dimensions = fetched
      obtain ⟨answer, counted⟩ := fetched
      rcases answer with fault | _ | ⟨limit, limits⟩
      · rfl
      · rfl
      · rfl

/-! ### The lists and the throttle -/

/-- The lists have no say in what is done, and nothing is done to them. -/
def IgnoresRules {Answer : Type} (act : Guard → Answer × Guard) : Prop :=
  ∀ (guard : Guard) (rules : RuleStore),
    act { guard with rules := rules } = ((act guard).1, { (act guard).2 with rules := rules })

theorem IgnoresRules.rules_eq {Answer : Type} {act : Guard → Answer × Guard}
    (ignores : IgnoresRules act) (guard : Guard) : (act guard).2.rules = guard.rules := by
  have same := ignores guard guard.rules
  exact congrArg (fun outcome => outcome.2.rules) same

theorem ignoresRules_concludeWith (identity : Identity) (answer : Except Fault (List Limit))
    (now : Instant) : IgnoresRules fun guard => guard.concludeWith identity answer now := by
  intro guard rules
  simp only [concludeWith]
  generalize guard.throttle.adopt answer = adopted
  obtain ⟨result, throttle⟩ := adopted
  cases result <;> rfl

theorem ignoresRules_conclude (identity : Identity) (now : Instant) :
    IgnoresRules fun guard => guard.conclude identity now := by
  intro guard rules
  simp only [conclude]
  split
  · rfl
  · exact ignoresRules_concludeWith identity _ now
      { guard with throttle := { guard.throttle with store := _ } } rules

theorem checkList_eq_of_throttle (guard : Guard) (throttle : Throttle) (kind : ListKind)
    (identity : Identity) :
    ({ guard with throttle := throttle } : Guard).checkList kind identity =
      ((guard.checkList kind identity).1,
        { (guard.checkList kind identity).2 with throttle := throttle }) := by
  simp only [checkList, withRules]
  cases identity.get? Dimension.ip.name with
  | none => rfl
  | some text =>
      simp only
      generalize guard.rules.isListed text kind = asked
      obtain ⟨result, rules⟩ := asked
      cases result <;> rfl

/-- The lists do not see the throttle when they are asked about an attempt. -/
theorem screen_eq_of_throttle (guard : Guard) (throttle : Throttle) (identity : Identity) :
    ({ guard with throttle := throttle } : Guard).screen identity =
      ((guard.screen identity).1, { (guard.screen identity).2 with throttle := throttle }) := by
  simp only [screen]
  split
  · rw [checkList_eq_of_throttle]
    generalize guard.checkList .black identity = asked
    obtain ⟨result, between⟩ := asked
    rcases result with fault | _ | _
    · rfl
    · rfl
    · simp only
      rw [checkList_eq_of_throttle]
      generalize between.checkList .white identity = askedToo
      obtain ⟨result, after⟩ := askedToo
      rcases result with fault | _ | _ <;> rfl
  · rfl

/-- Whoever the lists leave to the throttle is named. -/
theorem isEmpty_of_undecided {guard : Guard} {identity : Identity}
    (undecided : (guard.screen identity).1 = .ok .undecided) : identity.isEmpty = false := by
  obtain ⟨pairs, sorted⟩ := identity
  cases pairs with
  | nil =>
      simp [screen, Identity.isAttempt, Identity.get?, Dimension.all] at undecided
  | cons pair rest => rfl

end Guard

/-! ### Callers in a row -/

namespace Caller

/-- What is left of a check, from where it is to its end. -/
def settle (gate : Gate) (now : Instant) (guard : Guard) : Caller → Except Fault Bool × Guard
  | .arriving identity => guard.check gate identity now
  | .waiting identity => guard.conclude identity now
  | .fetching identity answer => guard.concludeWith identity answer now
  | .finished result => (result, guard)

/-- Where a check at the login gate is when the lists have spoken. -/
def screened (identity : Identity) : Except Fault Guard.Screening → Caller
  | .error fault => .finished (.error fault)
  | .ok .denied => .finished (.ok false)
  | .ok .passed => .finished (.ok true)
  | .ok .undecided => .waiting identity

/-- A check at the login gate asks the lists and goes on from what they say. -/
theorem settle_login (guard : Guard) (identity : Identity) (now : Instant) :
    (arriving identity).settle .login now guard =
      (screened identity (guard.screen identity).1).settle .login now
        (guard.screen identity).2 := by
  have named := @Guard.isEmpty_of_undecided guard identity
  simp only [settle, Guard.check, Guard.decide]
  generalize guard.screen identity = asked at named
  obtain ⟨result, after⟩ := asked
  rcases result with fault | _ | _ | _
  · rfl
  · rfl
  · rfl
  · exact (Guard.conclude_eq_check (named rfl) after now).symm

/-- What is left of checks that are seen through one after the other. -/
def settleAll (gate : Gate) (now : Instant) :
    List Caller → Guard → List (Except Fault Bool) × Guard
  | [], guard => ([], guard)
  | caller :: others, guard =>
      let (result, guard) := caller.settle gate now guard
      let (results, guard) := settleAll gate now others guard
      (result :: results, guard)

/-- The check has begun. -/
def HasBegun : Caller → Prop
  | .arriving _ => False
  | _ => True

/-- The check is over. -/
def IsOver (caller : Caller) : Prop :=
  ∃ result, caller = .finished result

variable (gate : Gate) (now : Instant)

theorem settleAll_append (front back : List Caller) (guard : Guard) :
    settleAll gate now (front ++ back) guard =
      ((settleAll gate now front guard).1 ++
          (settleAll gate now back (settleAll gate now front guard).2).1,
        (settleAll gate now back (settleAll gate now front guard).2).2) := by
  induction front generalizing guard with
  | nil => rfl
  | cons caller others inductionHypothesis =>
      simp only [List.cons_append, settleAll, inductionHypothesis]

/-- Checks that have not begun are seen through by checking each identity. -/
theorem settleAll_arriving (identities : List Identity) (guard : Guard) :
    settleAll gate now (identities.map .arriving) guard =
      guard.checkEach gate identities now := by
  induction identities generalizing guard with
  | nil => rfl
  | cons identity others inductionHypothesis =>
      simp only [List.map_cons, settleAll, settle, Guard.checkEach, inductionHypothesis]

/-- Checks that are over leave nothing to do. -/
theorem settleAll_over {callers : List Caller} (allOver : ∀ caller ∈ callers, caller.IsOver)
    (guard : Guard) :
    settleAll gate now callers guard = (callers.filterMap Caller.result?, guard) := by
  induction callers with
  | nil => rfl
  | cons caller others inductionHypothesis =>
      obtain ⟨result, rfl⟩ := allOver caller List.mem_cons_self
      have overLater other member := allOver other (List.mem_cons_of_mem _ member)
      simp only [settleAll, settle, inductionHypothesis overLater, List.filterMap_cons, result?]

theorem ignoresRules_settle {caller : Caller} (begun : caller.HasBegun) :
    Guard.IgnoresRules fun guard => caller.settle gate now guard := by
  cases caller with
  | arriving identity => exact absurd begun id
  | waiting identity => exact Guard.ignoresRules_conclude identity now
  | fetching identity answer => exact Guard.ignoresRules_concludeWith identity answer now
  | finished result => exact fun _ _ => rfl

/-- Callers that have begun are seen through without the lists. -/
theorem ignoresRules_settleAll {callers : List Caller}
    (begun : ∀ caller ∈ callers, caller.HasBegun) :
    Guard.IgnoresRules (settleAll gate now callers) := by
  induction callers with
  | nil => exact fun _ _ => rfl
  | cons caller others inductionHypothesis =>
      intro guard rules
      have first := ignoresRules_settle gate now (begun caller List.mem_cons_self) guard rules
      have later := inductionHypothesis fun other member =>
        begun other (List.mem_cons_of_mem _ member)
      simp only at first
      simp only [settleAll, first, later _ rules]

variable {gate now} {front : List Caller} {caller polled : Caller}

/-- It makes no difference if a caller goes on without the throttle before those who have begun
before it. -/
theorem settleAll_aside (begun : ∀ caller ∈ front, caller.HasBegun) {guard : Guard}
    {rules : RuleStore}
    (same : ∀ throttle, caller.settle gate now ⟨guard.rules, throttle⟩ =
      polled.settle gate now ⟨rules, throttle⟩) (back : List Caller) :
    settleAll gate now (front ++ caller :: back) guard =
      settleAll gate now (front ++ polled :: back) { guard with rules := rules } := by
  have ignores := ignoresRules_settleAll gate now begun
  have asIs : (settleAll gate now front guard).2 =
      ⟨guard.rules, (settleAll gate now front guard).2.throttle⟩ :=
    congrArg (fun rules => (⟨rules, _⟩ : Guard)) (ignores.rules_eq guard)
  rw [settleAll_append, settleAll_append, ignores guard rules, asIs]
  simp only [settleAll, same]

/-- It makes no difference if a caller goes on once those before it are over. -/
theorem settleAll_ahead (allOver : ∀ caller ∈ front, caller.IsOver) {guard after : Guard}
    (same : caller.settle gate now guard = polled.settle gate now after) (back : List Caller) :
    settleAll gate now (front ++ caller :: back) guard =
      settleAll gate now (front ++ polled :: back) after := by
  rw [settleAll_append, settleAll_append, settleAll_over gate now allOver,
    settleAll_over gate now allOver]
  simp only [settleAll, same]

end Caller

end LoginThrottle
