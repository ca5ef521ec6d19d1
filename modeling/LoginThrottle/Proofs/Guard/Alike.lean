import LoginThrottle.Guard.Concurrent
import LoginThrottle.Proofs.Rule.Journal

/-!
# Guards that forget their lookups

Guards that differ only in the lookups of their rule stores decide everything alike, one
check at a time as well as many at once.

## Main Definitions

* `Guard.Alike`: two guards differ at most in the lookups of their rule stores
* `Room.Alike`: the same for rooms in which checks overlap

## Main Statements

* `Guard.check_alike`, `Guard.checkAll_alike`: one answer, and guards that are alike behind it
* `Guard.alike_screen`: asking the lists leaves a guard like the one before
-/

namespace LoginThrottle

/-- Two guards differ at most in the lookups of their rule stores. -/
structure Guard.Alike (first second : Guard) : Prop where
  rules : first.rules.Alike second.rules
  throttle : first.throttle = second.throttle

namespace Guard

variable {first second : Guard}

theorem alike_withRules {guard : Guard} {rules : RuleStore} (alike : guard.rules.Alike rules) :
    Alike guard { guard with rules := rules } :=
  ⟨alike, rfl⟩

theorem Alike.refl {guard : Guard} (ignores : guard.rules.outage.IgnoresLookups) :
    Alike guard guard :=
  ⟨.refl ignores, rfl⟩

theorem Alike.trans {third : Guard} (one : Alike first second) (two : Alike second third) :
    Alike first third :=
  ⟨one.rules.trans two.rules, one.throttle.trans two.throttle⟩

/-- What becomes of equal throttles is equal. -/
theorem withThrottle_alike {Answer : Type} (alike : Alike first second)
    (use : Throttle → Except Fault Answer × Throttle) :
    Corresponds Alike (first.withThrottle (use first.throttle))
      (second.withThrottle (use second.throttle)) := by
  unfold withThrottle
  rw [alike.throttle]
  exact ⟨rfl, alike.rules, rfl⟩

theorem checkList_alike (alike : Alike first second) (kind : ListKind) (identity : Identity) :
    Corresponds Alike (first.checkList kind identity) (second.checkList kind identity) := by
  unfold checkList
  cases identity.get? Dimension.ip.name with
  | none => exact ⟨rfl, alike⟩
  | some text =>
      obtain ⟨result, left, right, one, two, alikeAfter⟩ :=
        (RuleStore.isListed_alike alike.rules text kind).exists_eq
      simp only [withRules, one, two]
      cases result <;> exact ⟨rfl, alikeAfter, alike.throttle⟩

theorem screen_alike (alike : Alike first second) (identity : Identity) :
    Corresponds Alike (first.screen identity) (second.screen identity) := by
  unfold screen
  split
  · obtain ⟨result, left, right, one, two, alikeAfter⟩ :=
      (checkList_alike alike .black identity).exists_eq
    rw [one, two]
    rcases result with fault | _ | _
    · exact ⟨rfl, alikeAfter⟩
    · exact ⟨rfl, alikeAfter⟩
    · obtain ⟨result, left, right, one, two, alikeAfter⟩ :=
        (checkList_alike alikeAfter .white identity).exists_eq
      simp only [one, two]
      rcases result with fault | _ | _ <;> exact ⟨rfl, alikeAfter⟩
  · exact ⟨rfl, alike⟩

theorem decide_alike (alike : Alike first second) (identity : Identity) (now : Instant) :
    Corresponds Alike (first.decide identity now) (second.decide identity now) := by
  obtain ⟨result, left, right, one, two, alikeAfter⟩ := (screen_alike alike identity).exists_eq
  unfold decide
  rw [one, two]
  rcases result with fault | _ | _ | _
  · exact ⟨rfl, alikeAfter⟩
  · exact ⟨rfl, alikeAfter⟩
  · exact ⟨rfl, alikeAfter⟩
  · exact withThrottle_alike alikeAfter fun throttle => throttle.satisfy identity now

theorem check_alike (alike : Alike first second) (gate : Gate) (identity : Identity)
    (now : Instant) :
    Corresponds Alike (first.check gate identity now) (second.check gate identity now) := by
  cases gate with
  | throttle => exact withThrottle_alike alike fun throttle => throttle.satisfy identity now
  | login => exact decide_alike alike identity now
  | list kind => exact checkList_alike alike kind identity

theorem reset_alike (alike : Alike first second) (gate : Gate) (identity : Identity)
    (now : Instant) :
    Corresponds Alike (first.reset gate identity now) (second.reset gate identity now) := by
  cases gate with
  | throttle => exact withThrottle_alike alike fun throttle => throttle.reset identity now
  | login => exact withThrottle_alike alike fun throttle => throttle.reset identity now
  | list kind => exact ⟨rfl, alike⟩

/-! ### Asking the lists -/

theorem alike_checkList {guard : Guard} (ignores : guard.rules.outage.IgnoresLookups)
    (kind : ListKind) (identity : Identity) : Alike guard (guard.checkList kind identity).2 := by
  unfold checkList
  cases identity.get? Dimension.ip.name with
  | none => exact Alike.refl ignores
  | some text =>
      have asked := alike_withRules (RuleStore.alike_isListed ignores text kind)
      cases answered : (guard.rules.isListed text kind).1 <;>
        simpa only [withRules, answered] using asked

/-- Asking the lists leaves a guard like the one before. -/
theorem alike_screen {guard : Guard} (ignores : guard.rules.outage.IgnoresLookups)
    (identity : Identity) : Alike guard (guard.screen identity).2 := by
  unfold screen
  split
  · have onBlack := alike_checkList ignores .black identity
    generalize guard.checkList .black identity = asked at onBlack ⊢
    obtain ⟨result, left⟩ := asked
    rcases result with fault | _ | _
    · exact onBlack
    · exact onBlack
    · have ignoresToo : left.rules.outage.IgnoresLookups :=
        onBlack.rules.outage ▸ onBlack.rules.ignores
      have onWhite := onBlack.trans (alike_checkList ignoresToo .white identity)
      simp only
      generalize left.checkList .white identity = askedToo at onWhite ⊢
      obtain ⟨resultToo, leftToo⟩ := askedToo
      rcases resultToo with fault | _ | _ <;> exact onWhite
  · exact Alike.refl ignores

end Guard

/-! ### Checks that overlap -/

/-- Two rooms differ at most in the lookups of their rule stores. -/
structure Room.Alike (first second : Room) : Prop where
  guard : first.guard.Alike second.guard
  holder : first.holder = second.holder
  queue : first.queue = second.queue

namespace Caller

variable {first second : Room}

theorem passMeters_alike (alike : first.Alike second) (identity : Identity) (now : Instant) :
    Corresponds Room.Alike (passMeters identity now first) (passMeters identity now second) := by
  obtain ⟨result, left, right, one, two, alikeAfter⟩ :=
    (Guard.check_alike alike.guard .throttle identity now).exists_eq
  unfold passMeters
  rw [one, two]
  exact ⟨rfl, alikeAfter, alike.holder, alike.queue⟩

theorem beginFetch_alike (alike : first.Alike second) (number : Nat) (identity : Identity) :
    Corresponds Room.Alike (beginFetch number identity first)
      (beginFetch number identity second) := by
  unfold beginFetch
  rw [alike.guard.throttle]
  exact ⟨rfl, ⟨alike.guard.rules, rfl⟩, rfl, alike.queue⟩

theorem release_alike (alike : first.Alike second) : first.release.Alike second.release := by
  unfold Room.release
  rw [alike.queue]
  cases second.queue with
  | nil => exact ⟨alike.guard, rfl, rfl⟩
  | cons next others => exact ⟨alike.guard, rfl, rfl⟩

theorem endFetch_alike (alike : first.Alike second) (identity : Identity)
    (answer : Except Fault (List Limit)) (now : Instant) :
    Corresponds Room.Alike (endFetch identity answer now first)
      (endFetch identity answer now second) := by
  unfold endFetch
  rw [alike.guard.throttle]
  cases made : second.guard.throttle.adopt answer with
  | mk result throttle =>
      have adopted : Room.Alike { first with guard := { first.guard with throttle := throttle } }
          { second with guard := { second.guard with throttle := throttle } } :=
        ⟨⟨alike.guard.rules, rfl⟩, alike.holder, alike.queue⟩
      have released := release_alike adopted
      cases result with
      | error fault => exact ⟨rfl, released⟩
      | ok meters => exact passMeters_alike released identity now

theorem approach_alike (alike : first.Alike second) (number : Nat) (identity : Identity)
    (now : Instant) :
    Corresponds Room.Alike (approach number identity now first)
      (approach number identity now second) := by
  unfold approach
  rw [alike.guard.throttle, alike.holder]
  split
  · exact passMeters_alike alike identity now
  · cases second.holder with
    | none => exact beginFetch_alike alike number identity
    | some _ => exact ⟨rfl, alike.guard, rfl, congrArg (· ++ [number]) alike.queue⟩

theorem arrive_alike (alike : first.Alike second) (number : Nat) (gate : Gate)
    (identity : Identity) (now : Instant) :
    Corresponds Room.Alike (arrive number gate identity now first)
      (arrive number gate identity now second) := by
  cases gate with
  | list kind =>
      obtain ⟨result, left, right, one, two, alikeAfter⟩ :=
        (Guard.check_alike alike.guard (.list kind) identity now).exists_eq
      simp only [arrive, one, two]
      exact ⟨rfl, alikeAfter, alike.holder, alike.queue⟩
  | throttle =>
      simp only [arrive]
      split
      · exact ⟨rfl, alike⟩
      · exact approach_alike alike number identity now
  | login =>
      obtain ⟨result, left, right, one, two, alikeAfter⟩ :=
        (Guard.screen_alike alike.guard identity).exists_eq
      have alikeRooms : Room.Alike { first with guard := left } { second with guard := right } :=
        ⟨alikeAfter, alike.holder, alike.queue⟩
      simp only [arrive, one, two]
      rcases result with fault | _ | _ | _
      · exact ⟨rfl, alikeRooms⟩
      · exact ⟨rfl, alikeRooms⟩
      · exact ⟨rfl, alikeRooms⟩
      · exact approach_alike alikeRooms number identity now

theorem poll_alike (alike : first.Alike second) (number : Nat) (gate : Gate) (now : Instant)
    (caller : Caller) :
    Corresponds Room.Alike (caller.poll number gate now first)
      (caller.poll number gate now second) := by
  cases caller with
  | arriving identity => exact arrive_alike alike number gate identity now
  | waiting identity =>
      simp only [poll]
      rw [alike.guard.throttle, alike.holder]
      split
      · exact passMeters_alike alike identity now
      · split
        · exact beginFetch_alike alike number identity
        · exact ⟨rfl, alike⟩
  | fetching identity answer => exact endFetch_alike alike identity answer now
  | finished result => exact ⟨rfl, alike⟩

end Caller

namespace Room

variable {first second : Room}

theorem pollAll_alike (alike : first.Alike second) (gate : Gate) (now : Instant) (number : Nat)
    (callers : List Caller) :
    Corresponds Alike (pollAll gate now number callers first)
      (pollAll gate now number callers second) := by
  induction callers generalizing first second number with
  | nil => exact ⟨rfl, alike⟩
  | cons caller others inductionHypothesis =>
      obtain ⟨polled, left, right, one, two, alikeAfter⟩ :=
        (Caller.poll_alike alike number gate now caller).exists_eq
      simp only [pollAll, one, two]
      exact (inductionHypothesis alikeAfter (number + 1)).map (polled :: ·)

theorem pollRounds_alike (alike : first.Alike second) (gate : Gate) (now : Instant)
    (rounds : Nat) (callers : List Caller) :
    Corresponds Alike (pollRounds gate now rounds callers first)
      (pollRounds gate now rounds callers second) := by
  induction rounds generalizing first second callers with
  | zero => exact ⟨rfl, alike⟩
  | succ rounds inductionHypothesis =>
      obtain ⟨polled, left, right, one, two, alikeAfter⟩ :=
        (pollAll_alike alike gate now 0 callers).exists_eq
      simp only [pollRounds, one, two]
      exact inductionHypothesis alikeAfter polled

end Room

theorem Guard.checkAll_alike {first second : Guard} (alike : first.Alike second) (gate : Gate)
    (identities : List Identity) (now : Instant) :
    Corresponds Guard.Alike (first.checkAll gate identities now)
      (second.checkAll gate identities now) := by
  have rooms : Room.Alike (.new first) (.new second) := ⟨alike, rfl, rfl⟩
  obtain ⟨callers, left, right, one, two, alikeAfter⟩ :=
    (Room.pollRounds_alike rooms gate now (identities.length + 1)
      (identities.map .arriving)).exists_eq
  unfold checkAll
  rw [one, two]
  exact ⟨rfl, alikeAfter.guard⟩

end LoginThrottle
