import LoginThrottle.Guard
import LoginThrottle.Proofs.Identity
import LoginThrottle.Proofs.Rule.Membership
import LoginThrottle.Proofs.Rule.Removal

/-!
# How a guard decides

A decision has seven possible reasons.  Six of them come from the attempt itself or from the
lists and do not touch the throttle; the seventh is the answer of the throttle.

## Main Definitions

* `Identity.NamesAttempt`: the identity names every dimension of a login attempt
* `Guard.Listed`: some rule of a list covers an address
* `Guard.Ruling`: the seven reasons with their conditions and what they lead to

## Main Statements

* `Guard.ruling_iff`: the reasons exclude each other, one always applies, and it gives the
  answer of the guard and the throttle behind it
-/

namespace LoginThrottle

/-! ### Complete identities -/

/-- An identity names every dimension of a login attempt, none of them by the empty text. -/
def Identity.NamesAttempt (identity : Identity) : Prop :=
  ∀ dimension : Dimension, ∃ value, identity.get? dimension.name = some value ∧ value ≠ ""

theorem Dimension.mem_all (dimension : Dimension) : dimension ∈ Dimension.all := by
  cases dimension <;> simp [Dimension.all]

theorem Identity.isAttempt_iff (identity : Identity) :
    identity.isAttempt = true ↔ identity.NamesAttempt := by
  simp only [isAttempt, List.all_eq_true]
  constructor
  · intro attempt dimension
    have asked := attempt dimension dimension.mem_all
    split at asked
    · next value named => exact ⟨value, named, of_decide_eq_true asked⟩
    · cases asked
  · intro complete dimension _
    obtain ⟨value, named, value_ne⟩ := complete dimension
    rw [named]
    exact decide_eq_true value_ne

theorem Identity.NamesAttempt.mem_dimensions {identity : Identity}
    (complete : identity.NamesAttempt) (dimension : Dimension) :
    dimension.name ∈ identity.dimensions := by
  obtain ⟨value, named, _⟩ := complete dimension
  exact List.mem_map.2 ⟨(dimension.name, value), Identity.get?_eq_some_iff.1 named, rfl⟩

/-- A login attempt whose texts are not empty is complete. -/
theorem Identity.namesAttempt_ofAttempt {ip login password : String} (ip_ne : ip ≠ "")
    (login_ne : login ≠ "") (password_ne : password ≠ "") :
    (Identity.ofAttempt ip login password).NamesAttempt := by
  intro dimension
  simp only [Identity.get?_eq_some_iff, Identity.pairs_ofAttempt]
  cases dimension with
  | ip => exact ⟨ip, by simp, ip_ne⟩
  | login => exact ⟨login, by simp, login_ne⟩
  | password => exact ⟨password, by simp, password_ne⟩

namespace Guard

/-! ### The parts of a decision -/

/-- Some rule of a list covers an address. -/
def Listed (guard : Guard) (list : ListKind) (address : IpAddress) : Prop :=
  ∃ rule ∈ guard.rules.table.rules, rule.list = list ∧ TextCovers rule.text address.embed

/-- Why a guard decides as it does about an identity, with the answer and the throttle that
the reason leads to. -/
inductive Ruling (guard : Guard) (identity : Identity) (now : Instant) :
    Except Fault Bool × Throttle → Prop
  | incomplete : ¬ identity.NamesAttempt →
      Ruling guard identity now (.error .incorrectIdentity, guard.throttle)
  | unreadable {text : String} : identity.NamesAttempt →
      identity.get? Dimension.ip.name = some text → IpAddress.read? text = none →
      Ruling guard identity now (.error (.invalidAddress text), guard.throttle)
  | blackUnknown {text : String} {address : IpAddress} : identity.NamesAttempt →
      identity.get? Dimension.ip.name = some text → IpAddress.read? text = some address →
      guard.rules.fails (.ofList .black) = true →
      Ruling guard identity now (.error (RuleCall.ofList .black).fault, guard.throttle)
  | black {text : String} {address : IpAddress} : identity.NamesAttempt →
      identity.get? Dimension.ip.name = some text → IpAddress.read? text = some address →
      guard.rules.fails (.ofList .black) = false → guard.Listed .black address →
      Ruling guard identity now (.ok false, guard.throttle)
  | whiteUnknown {text : String} {address : IpAddress} : identity.NamesAttempt →
      identity.get? Dimension.ip.name = some text → IpAddress.read? text = some address →
      guard.rules.fails (.ofList .black) = false → ¬ guard.Listed .black address →
      (guard.rules.entered (.ofList .black)).fails (.ofList .white) = true →
      Ruling guard identity now (.error (RuleCall.ofList .white).fault, guard.throttle)
  | white {text : String} {address : IpAddress} : identity.NamesAttempt →
      identity.get? Dimension.ip.name = some text → IpAddress.read? text = some address →
      guard.rules.fails (.ofList .black) = false → ¬ guard.Listed .black address →
      (guard.rules.entered (.ofList .black)).fails (.ofList .white) = false →
      guard.Listed .white address →
      Ruling guard identity now (.ok true, guard.throttle)
  | throttled {text : String} {address : IpAddress} : identity.NamesAttempt →
      identity.get? Dimension.ip.name = some text → IpAddress.read? text = some address →
      guard.rules.fails (.ofList .black) = false → ¬ guard.Listed .black address →
      (guard.rules.entered (.ofList .black)).fails (.ofList .white) = false →
      ¬ guard.Listed .white address →
      Ruling guard identity now (guard.throttle.satisfy identity now)

/-- A list limiter in terms of the question whether the address is listed. -/
theorem checkList_eq {guard : Guard} {identity : Identity} {text : String}
    (named : identity.get? Dimension.ip.name = some text) (kind : ListKind) :
    guard.checkList kind identity =
      ((guard.rules.isListed text kind).1.map (fun listed =>
          match kind with
          | .white => listed
          | .black => !listed),
        { guard with rules := (guard.rules.isListed text kind).2 }) := by
  rw [checkList, named]
  cases answered : guard.rules.isListed text kind with
  | mk result rules =>
      cases result <;> cases kind <;> simp [withRules, answered, Except.map]

/-- The guard once a list has been looked up. -/
def asked (guard : Guard) (kind : ListKind) : Guard :=
  { guard with rules := guard.rules.entered (.ofList kind) }

@[simp] theorem throttle_asked (guard : Guard) (kind : ListKind) :
    (guard.asked kind).throttle = guard.throttle := rfl

section Lists

variable (guard : Guard) {identity : Identity} {text : String} {address : IpAddress}
  (named : identity.get? Dimension.ip.name = some text)

include named

theorem checkList_of_unreadable (unreadable : IpAddress.read? text = none) (kind : ListKind) :
    guard.checkList kind identity = (.error (.invalidAddress text), guard) := by
  rw [checkList_eq named, RuleStore.isListed_eq, unreadable]
  rfl

variable (spelled : IpAddress.read? text = some address) {kind : ListKind}

include spelled

theorem checkList_of_fails (fails : guard.rules.fails (.ofList kind) = true) :
    guard.checkList kind identity = (.error (RuleCall.ofList kind).fault, guard.asked kind) := by
  rw [checkList_eq named, RuleStore.isListed_eq, spelled]
  simp [RuleStore.lookup, fails, Except.map, asked]

/-- A list limiter whose lookup does not fail, in terms of what the lookup finds. -/
theorem checkList_of_answers (answers : guard.rules.fails (.ofList kind) = false) {listed : Bool}
    (found : ((guard.rules.table.ofList kind).any fun rule => rule.covers address.canonical) =
      listed) :
    guard.checkList kind identity =
      (.ok (match kind with
        | .white => listed
        | .black => !listed), guard.asked kind) := by
  rw [checkList_eq named, RuleStore.isListed_eq, spelled]
  cases kind <;> simp [RuleStore.lookup, answers, Except.map, asked, found]

theorem checkList_of_listed (answers : guard.rules.fails (.ofList kind) = false)
    (listed : guard.Listed kind address) :
    guard.checkList kind identity =
      (.ok (Decidable.decide (kind = .white)), guard.asked kind) := by
  have found := (RuleStore.any_covers_iff guard.rules kind address).2 listed
  rw [guard.checkList_of_answers named spelled answers found]
  cases kind <;> rfl

theorem checkList_of_unlisted (answers : guard.rules.fails (.ofList kind) = false)
    (unlisted : ¬ guard.Listed kind address) :
    guard.checkList kind identity =
      (.ok (Decidable.decide (kind = .black)), guard.asked kind) := by
  have missed : ((guard.rules.table.ofList kind).any fun rule =>
      rule.covers address.canonical) = false := by
    rw [← Bool.not_eq_true, RuleStore.any_covers_iff]
    exact unlisted
  rw [guard.checkList_of_answers named spelled answers missed]
  cases kind <;> rfl

end Lists

/-! ### Rulings and decisions -/

/-- Each reason leads to the answer that the guard gives. -/
theorem eq_decide_of_ruling {guard : Guard} {identity : Identity} {now : Instant}
    {outcome : Except Fault Bool × Throttle} (ruling : Ruling guard identity now outcome) :
    outcome = ((guard.decide identity now).1, (guard.decide identity now).2.throttle) := by
  cases ruling with
  | incomplete missing =>
      have refused : ¬ identity.isAttempt = true := fun attempt =>
        missing ((Identity.isAttempt_iff identity).1 attempt)
      simp [decide, screen, refused]
  | unreadable complete named unreadable =>
      have attempt := (Identity.isAttempt_iff identity).2 complete
      simp [decide, screen, attempt, guard.checkList_of_unreadable named unreadable]
  | blackUnknown complete named spelled fails =>
      have attempt := (Identity.isAttempt_iff identity).2 complete
      simp [decide, screen, attempt, guard.checkList_of_fails named spelled fails]
  | black complete named spelled answers listed =>
      have attempt := (Identity.isAttempt_iff identity).2 complete
      simp [decide, screen, attempt, guard.checkList_of_listed named spelled answers listed]
  | whiteUnknown complete named spelled answers unlisted fails =>
      have attempt := (Identity.isAttempt_iff identity).2 complete
      have passesBlack := guard.checkList_of_unlisted named spelled answers unlisted
      have failsWhite := (guard.asked .black).checkList_of_fails named spelled fails
      simp [decide, screen, attempt, passesBlack, failsWhite]
  | white complete named spelled answers unlisted answersToo listed =>
      have attempt := (Identity.isAttempt_iff identity).2 complete
      have passesBlack := guard.checkList_of_unlisted named spelled answers unlisted
      have passesWhite := (guard.asked .black).checkList_of_listed named spelled answersToo listed
      simp [decide, screen, attempt, passesBlack, passesWhite]
  | throttled complete named spelled answers unlisted answersToo unlistedToo =>
      have attempt := (Identity.isAttempt_iff identity).2 complete
      have passesBlack := guard.checkList_of_unlisted named spelled answers unlisted
      have failsWhite :=
        (guard.asked .black).checkList_of_unlisted named spelled answersToo unlistedToo
      simp [decide, screen, attempt, passesBlack, failsWhite, withThrottle]

/-- Some reason always applies. -/
theorem exists_ruling (guard : Guard) (identity : Identity) (now : Instant) :
    ∃ outcome, Ruling guard identity now outcome := by
  by_cases complete : identity.NamesAttempt
  · obtain ⟨text, named, _⟩ := complete .ip
    cases spelled : IpAddress.read? text with
    | none => exact ⟨_, .unreadable complete named spelled⟩
    | some address =>
        cases answers : guard.rules.fails (.ofList .black) with
        | true => exact ⟨_, .blackUnknown complete named spelled answers⟩
        | false =>
            by_cases listed : guard.Listed .black address
            · exact ⟨_, .black complete named spelled answers listed⟩
            · cases answersToo : (guard.rules.entered (.ofList .black)).fails (.ofList .white) with
              | true => exact ⟨_, .whiteUnknown complete named spelled answers listed answersToo⟩
              | false =>
                  by_cases listedToo : guard.Listed .white address
                  · exact ⟨_, .white complete named spelled answers listed answersToo listedToo⟩
                  · exact ⟨_, .throttled complete named spelled answers listed answersToo
                      listedToo⟩
  · exact ⟨_, .incomplete complete⟩

/-- The reasons exclude each other and one always applies, so they settle what a guard
answers and what becomes of its throttle. -/
theorem ruling_iff (guard : Guard) (identity : Identity) (now : Instant)
    (outcome : Except Fault Bool × Throttle) :
    Ruling guard identity now outcome ↔
      outcome = ((guard.decide identity now).1, (guard.decide identity now).2.throttle) := by
  constructor
  · exact eq_decide_of_ruling
  · rintro rfl
    -- Some reason applies, and it leads to this outcome.
    obtain ⟨outcome, ruling⟩ := exists_ruling guard identity now
    exact eq_decide_of_ruling ruling ▸ ruling

/-! ### Decisions over rules that can always be asked -/

section Reliable

variable {guard : Guard} {identity : Identity} {text : String} {address : IpAddress}
  (reliable : guard.rules.Reliable) (complete : identity.NamesAttempt)
  (named : identity.get? Dimension.ip.name = some text)
  (spelled : IpAddress.read? text = some address)

include reliable complete named spelled

/-- If the rules can always be asked and the throttle comes to a decision, so does the guard. -/
theorem decide_answers {now : Instant}
    (answers : ∃ passed, (guard.throttle.satisfy identity now).1 = .ok passed) :
    ∃ passed, (guard.decide identity now).1 = .ok passed := by
  obtain ⟨outcome, ruling⟩ := guard.exists_ruling identity now
  have same := congrArg Prod.fst (eq_decide_of_ruling ruling)
  rw [← same]
  cases ruling with
  | incomplete missing => exact absurd complete missing
  | unreadable _ namedToo unreadable =>
      obtain rfl := Option.some.inj (named.symm.trans namedToo)
      rw [spelled] at unreadable
      cases unreadable
  | blackUnknown _ _ _ fails =>
      rw [reliable.fails_eq] at fails
      cases fails
  | black => exact ⟨false, rfl⟩
  | whiteUnknown _ _ _ _ _ fails =>
      rw [(reliable.entered _).fails_eq] at fails
      cases fails
  | white => exact ⟨true, rfl⟩
  | throttled => exact answers

/-- If nothing is on the lists, the throttle decides. -/
theorem decide_eq_satisfy (unlisted : guard.rules.table.rules = []) (now : Instant) :
    (guard.decide identity now).1 = (guard.throttle.satisfy identity now).1 := by
  have nobody (kind : ListKind) : ¬ guard.Listed kind address := by
    rintro ⟨rule, stored, _⟩
    rw [unlisted] at stored
    cases stored
  have ruling : guard.Ruling identity now (guard.throttle.satisfy identity now) :=
    .throttled complete named spelled (reliable.fails_eq _) (nobody .black)
      ((reliable.entered _).fails_eq _) (nobody .white)
  exact (congrArg Prod.fst (eq_decide_of_ruling ruling)).symm

end Reliable

end Guard

end LoginThrottle
