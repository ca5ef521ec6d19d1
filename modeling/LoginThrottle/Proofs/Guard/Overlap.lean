import LoginThrottle.Guard.Concurrent
import LoginThrottle.Proofs.Guard.Deeds

/-!
# Overlapping checks as moves

Checks that overlap take turns at fetching limits.  While one of them waits for an answer the
others leave the throttle and the turn alone, so the answer still finds a throttle without
meters.

## Main Definitions

* `Caller.Awaits`: what the room promises to a caller that waits for an answer
* `Room.Undisturbed`: the throttle and the turn are left alone
* `Caller.deeds`: the deeds of a caller that goes on
* `Guard.checkAllDeeds`: the deeds of checks that overlap

## Main Statements

* `Caller.poll_goesOn`: what a caller does and what it leaves to the others
* `Room.pollAll_goesOn`: the same for a round
* `Guard.moves_checkAll`: checks that overlap make moves with these deeds
-/

namespace LoginThrottle

/-! ### The turn -/

/-- Somebody has the turn, and there are no meters yet. -/
def Room.Taken (room : Room) (number : Nat) : Prop :=
  room.holder = some number ∧ room.guard.throttle.meters = none

/-- The throttle and the turn are left alone. -/
structure Room.Undisturbed (before after : Room) : Prop where
  holder_eq : after.holder = before.holder
  throttle_eq : after.guard.throttle = before.guard.throttle

/-- What the room promises to a caller that waits for an answer: it has the turn, there are no
meters yet, and limits are answered as they are in the store. -/
def Caller.Awaits (number : Nat) (room : Room) : Caller → Prop
  | .fetching identity answer =>
      room.Taken number ∧ ∀ limits, answer = .ok limits →
        Limit.select room.guard.throttle.store.limits identity.dimensions = limits
  | _ => True

/-- What the room promises to callers that are numbered from a number on. -/
def Room.AllAwait (room : Room) (number : Nat) : List Caller → Prop
  | [] => True
  | caller :: others => caller.Awaits number room ∧ room.AllAwait (number + 1) others

namespace Room.Undisturbed

variable {first second third : Room}

theorem refl (room : Room) : room.Undisturbed room :=
  ⟨rfl, rfl⟩

theorem trans (one : first.Undisturbed second) (two : second.Undisturbed third) :
    first.Undisturbed third :=
  ⟨two.holder_eq.trans one.holder_eq, two.throttle_eq.trans one.throttle_eq⟩

theorem taken (same : first.Undisturbed second) {number : Nat} (taken : first.Taken number) :
    second.Taken number :=
  ⟨same.holder_eq.trans taken.1, by rw [same.throttle_eq]; exact taken.2⟩

end Room.Undisturbed

/-- A promise is kept if whoever has the turn is left alone. -/
theorem Caller.Awaits.of_undisturbed {number : Nat} {before after : Room} {caller : Caller}
    (awaits : caller.Awaits number before)
    (spared : before.Taken number → before.Undisturbed after) : caller.Awaits number after := by
  cases caller with
  | fetching identity answer =>
      obtain ⟨taken, honest⟩ := awaits
      have same := spared taken
      refine ⟨same.taken taken, ?_⟩
      rw [same.throttle_eq]
      exact honest
  | _ => trivial

theorem Room.AllAwait.of_undisturbed {number : Nat} {before after : Room} {callers : List Caller}
    (await : before.AllAwait number callers)
    (spared : ∀ other, number ≤ other → before.Taken other → before.Undisturbed after) :
    after.AllAwait number callers := by
  induction callers generalizing number with
  | nil => trivial
  | cons caller others inductionHypothesis =>
      refine ⟨await.1.of_undisturbed (spared number (Nat.le_refl _)), ?_⟩
      refine inductionHypothesis await.2 fun other above => spared other ?_
      exact Nat.le_of_succ_le above

/-! ### What one caller does -/

namespace Caller

/-- What comes of a caller that goes on: its moves, what it may count on, and that it leaves
the room alone if it is somebody else's turn. -/
structure GoesOn (now : Instant) (number : Nat) (room : Room) (deeds : List Deed)
    (outcome : Caller × Room) : Prop where
  moves : Throttle.Moves now room.guard.throttle deeds outcome.2.guard.throttle
  awaits : outcome.1.Awaits number outcome.2
  spares : ∀ other, other ≠ number → room.Taken other → room.Undisturbed outcome.2

variable {room : Room} {number : Nat} {identity : Identity}

theorem isInitialized_eq_false_iff {throttle : Throttle} :
    throttle.isInitialized = false ↔ throttle.meters = none := by
  rw [Throttle.isInitialized, Option.isSome_eq_false_iff, Option.isNone_iff_eq_none]

/-- Whoever goes on without touching the room leaves it alone. -/
theorem goesOn_of_undisturbed {now : Instant} {caller : Caller} {after : Room}
    (same : room.Undisturbed after) (idle : ∀ room, caller.Awaits number room) :
    GoesOn now number room [] (caller, after) where
  moves := by
    rw [same.throttle_eq]
    exact .none _
  awaits := idle after
  spares := fun _ _ _ => same

theorem passMeters_goesOn (now : Instant) (number : Nat)
    (made : room.guard.throttle.isInitialized = true) :
    GoesOn now number room (room.guard.throttle.checkDeeds identity now)
      (passMeters identity now room) where
  moves := room.guard.throttle.moves_satisfy identity now
  awaits := trivial
  spares := by
    rintro other - ⟨-, unmade⟩
    rw [isInitialized_eq_false_iff.2 unmade] at made
    cases made

theorem beginFetch_goesOn (now : Instant) (unmade : room.guard.throttle.meters = none)
    (turn : ∀ other, room.holder = some other → other = number) :
    GoesOn now number room [] (beginFetch number identity room) where
  moves := (Throttle.Move.fetch room.guard.throttle unmade).alone
  awaits := ⟨⟨rfl, unmade⟩, fun _ => LimitStore.select_counted_of_answer⟩
  spares := fun other different taken => absurd (turn other taken.1) different

theorem guard_release (room : Room) : room.release.guard = room.guard := by
  unfold Room.release
  cases room.queue <;> rfl

/-- The deeds of a caller that learns the answer to a fetch. -/
def answerDeeds (identity : Identity) (answer : Except Fault (List Limit)) (now : Instant)
    (room : Room) : List Deed :=
  Throttle.adoption identity.dimensions answer ++
    match room.guard.throttle.adopt answer with
    | (.error _, _) => []
    | (.ok _, throttle) => throttle.checkDeeds identity now

theorem endFetch_goesOn {answer : Except Fault (List Limit)} (now : Instant)
    (awaits : (fetching identity answer).Awaits number room) :
    GoesOn now number room (answerDeeds identity answer now room)
      (endFetch identity answer now room) := by
  obtain ⟨⟨holder_eq, unmade⟩, honest⟩ := awaits
  -- Nobody else can have the turn.
  have spares (after : Room) (other : Nat) (different : other ≠ number)
      (taken : room.Taken other) : room.Undisturbed after :=
    absurd (Option.some.inj (taken.1.symm.trans holder_eq)) different
  obtain ⟨made, moves, ⟨fault, failed⟩ | ⟨meters, _, adopted⟩⟩ :=
    Throttle.adopt_cases unmade honest now
  · rw [answerDeeds, endFetch, failed]
    refine ⟨?_, trivial, spares _⟩
    simp only [guard_release]
    exact moves.trans (.none made)
  · rw [answerDeeds, endFetch, adopted]
    refine ⟨?_, trivial, spares _⟩
    simp only [passMeters, guard_release]
    exact moves.trans (made.moves_satisfy identity now)

/-- The deeds of a caller that comes to the meters. -/
def approachDeeds (identity : Identity) (now : Instant) (room : Room) : List Deed :=
  if room.guard.throttle.isInitialized then room.guard.throttle.checkDeeds identity now else []

theorem approach_goesOn (number : Nat) (identity : Identity) (now : Instant) (room : Room) :
    GoesOn now number room (approachDeeds identity now room)
      (approach number identity now room) := by
  unfold approach approachDeeds
  cases made : room.guard.throttle.isInitialized with
  | true => exact passMeters_goesOn now number made
  | false =>
      have unmade := isInitialized_eq_false_iff.1 made
      simp only [Bool.false_eq_true, if_false]
      cases holder_eq : room.holder with
      | none =>
          refine beginFetch_goesOn now unmade ?_
          intro other held
          rw [holder_eq] at held
          cases held
      | some holder => exact goesOn_of_undisturbed ⟨holder_eq.symm, rfl⟩ fun _ => trivial

/-- The deeds of a caller that goes on. -/
def deeds (gate : Gate) (now : Instant) (room : Room) : Caller → List Deed
  | .arriving identity =>
      match gate with
      | .throttle => approachDeeds identity now room
      | .login =>
          match (room.guard.screen identity).1 with
          | .ok .undecided => approachDeeds identity now room
          | _ => []
      | .list _ => []
  | .waiting identity => approachDeeds identity now room
  | .fetching identity answer => answerDeeds identity answer now room
  | .finished _ => []

theorem GoesOn.of_undisturbed {now : Instant} {first : Room} {deeds : List Deed}
    {outcome : Caller × Room} (goesOn : GoesOn now number room deeds outcome)
    (same : first.Undisturbed room) : GoesOn now number first deeds outcome where
  moves := by
    rw [← same.throttle_eq]
    exact goesOn.moves
  awaits := goesOn.awaits
  spares := fun other different taken =>
    same.trans (goesOn.spares other different (same.taken taken))

theorem arrive_goesOn (number : Nat) (gate : Gate) (identity : Identity) (now : Instant)
    (room : Room) :
    GoesOn now number room ((arriving identity).deeds gate now room)
      (arrive number gate identity now room) := by
  cases gate with
  | list kind =>
      exact goesOn_of_undisturbed ⟨rfl, room.guard.throttle_checkList kind identity⟩
        fun _ => trivial
  | throttle =>
      simp only [arrive, deeds]
      split
      · next empty =>
          have idle : approachDeeds identity now room = [] := by
            simp [approachDeeds, Throttle.checkDeeds, empty]
          rw [idle]
          exact goesOn_of_undisturbed (.refl room) fun _ => trivial
      · exact approach_goesOn number identity now room
  | login =>
      have screened := room.guard.throttle_screen identity
      simp only [arrive, deeds]
      cases answered : room.guard.screen identity with
      | mk result after =>
          rw [answered] at screened
          have same : room.Undisturbed { room with guard := after } := ⟨rfl, screened⟩
          rcases result with fault | _ | _ | _
          · exact goesOn_of_undisturbed same fun _ => trivial
          · exact goesOn_of_undisturbed same fun _ => trivial
          · exact goesOn_of_undisturbed same fun _ => trivial
          · -- The lists were asked without a trace in the throttle.
            have sameDeeds : approachDeeds identity now room =
                approachDeeds identity now { room with guard := after } := by
              simp only [approachDeeds, show after.throttle = room.guard.throttle from screened]
            simp only [sameDeeds]
            exact (approach_goesOn number identity now _).of_undisturbed same

/-- What a caller does and what it leaves to the others. -/
theorem poll_goesOn (gate : Gate) (now : Instant) {caller : Caller}
    (awaits : caller.Awaits number room) :
    GoesOn now number room (caller.deeds gate now room) (caller.poll number gate now room) := by
  cases caller with
  | arriving identity => exact arrive_goesOn number gate identity now room
  | waiting identity =>
      simp only [poll, deeds, approachDeeds]
      cases made : room.guard.throttle.isInitialized with
      | true => exact passMeters_goesOn now number made
      | false =>
          have unmade := isInitialized_eq_false_iff.1 made
          simp only [Bool.false_eq_true, if_false]
          split
          · next turn =>
              refine beginFetch_goesOn now unmade ?_
              intro other held
              exact Option.some.inj (held.symm.trans turn)
          · exact goesOn_of_undisturbed (.refl room) fun _ => trivial
  | fetching identity answer => exact endFetch_goesOn now awaits
  | finished result => exact goesOn_of_undisturbed (.refl room) fun _ => trivial

end Caller

/-! ### Rounds -/

namespace Room

variable {room : Room} {callers : List Caller} {number : Nat}

/-- The deeds of a round, with callers that are numbered from a number on. -/
def roundDeeds (gate : Gate) (now : Instant) (number : Nat) : List Caller → Room → List Deed
  | [], _ => []
  | caller :: others, room =>
      caller.deeds gate now room ++
        roundDeeds gate now (number + 1) others (caller.poll number gate now room).2

/-- What the callers of a round do and what they leave to those before them. -/
theorem pollAll_goesOn (gate : Gate) (now : Instant) (await : room.AllAwait number callers) :
    Throttle.Moves now room.guard.throttle (roundDeeds gate now number callers room)
        (pollAll gate now number callers room).2.guard.throttle ∧
      (pollAll gate now number callers room).2.AllAwait number
        (pollAll gate now number callers room).1 ∧
      ∀ other, other < number → room.Taken other →
        room.Undisturbed (pollAll gate now number callers room).2 := by
  induction callers generalizing room number with
  | nil => exact ⟨.none _, trivial, fun _ _ _ => .refl room⟩
  | cons caller others inductionHypothesis =>
      have polled := Caller.poll_goesOn gate now await.1
      have awaitLater := await.2.of_undisturbed fun other above taken =>
        polled.spares other (Nat.ne_of_gt above) taken
      -- Those behind this caller spare its turn, and those before it were spared by both.
      obtain ⟨moves, awaitAfter, spares⟩ := inductionHypothesis awaitLater
      refine ⟨polled.moves.trans moves, ⟨?_, awaitAfter⟩, ?_⟩
      · exact polled.awaits.of_undisturbed (spares number (Nat.lt_succ_self number))
      · intro other below taken
        have same := polled.spares other (Nat.ne_of_lt below) taken
        exact same.trans (spares other (Nat.lt_succ_of_lt below) (same.taken taken))

/-- The deeds of some rounds. -/
def roundsDeeds (gate : Gate) (now : Instant) : Nat → List Caller → Room → List Deed
  | 0, _, _ => []
  | rounds + 1, callers, room =>
      roundDeeds gate now 0 callers room ++
        roundsDeeds gate now rounds (pollAll gate now 0 callers room).1
          (pollAll gate now 0 callers room).2

theorem moves_pollRounds (gate : Gate) (now : Instant) (rounds : Nat)
    (await : room.AllAwait 0 callers) :
    Throttle.Moves now room.guard.throttle (roundsDeeds gate now rounds callers room)
      (pollRounds gate now rounds callers room).2.guard.throttle := by
  induction rounds generalizing room callers with
  | zero => exact .none _
  | succ rounds inductionHypothesis =>
      obtain ⟨moves, awaitAfter, _⟩ := pollAll_goesOn gate now await
      exact moves.trans (inductionHypothesis awaitAfter)

theorem allAwait_arriving (room : Room) (number : Nat) (identities : List Identity) :
    room.AllAwait number (identities.map .arriving) := by
  induction identities generalizing number with
  | nil => trivial
  | cons identity others inductionHypothesis => exact ⟨trivial, inductionHypothesis _⟩

end Room

/-- The deeds of checks that overlap. -/
def Guard.checkAllDeeds (guard : Guard) (gate : Gate) (identities : List Identity)
    (now : Instant) : List Deed :=
  Room.roundsDeeds gate now (identities.length + 1) (identities.map .arriving) (.new guard)

/-- Checks that overlap make moves with these deeds. -/
theorem Guard.moves_checkAll (guard : Guard) (gate : Gate) (identities : List Identity)
    (now : Instant) :
    Throttle.Moves now guard.throttle (guard.checkAllDeeds gate identities now)
      (guard.checkAll gate identities now).2.throttle :=
  Room.moves_pollRounds gate now _ (Room.allAwait_arriving (.new guard) 0 identities)

/-! ### Overlapping checks fill nothing up -/

section Forgiven

variable (dimension value : String)

theorem Caller.forgiven_approachDeeds (identity : Identity) (now : Instant) (room : Room) :
    forgiven dimension value (approachDeeds identity now room) = 0 := by
  unfold approachDeeds
  split
  · exact Throttle.forgiven_checkDeeds dimension value _ _ _
  · rfl

theorem Caller.forgiven_deeds (gate : Gate) (now : Instant) (room : Room) (caller : Caller) :
    forgiven dimension value (caller.deeds gate now room) = 0 := by
  cases caller with
  | arriving identity =>
      cases gate with
      | list kind => rfl
      | throttle => exact forgiven_approachDeeds dimension value identity now room
      | login =>
          simp only [deeds]
          split
          · exact forgiven_approachDeeds dimension value identity now room
          · rfl
  | waiting identity => exact forgiven_approachDeeds dimension value identity now room
  | fetching identity answer =>
      simp only [deeds, answerDeeds]
      rw [forgiven_append, Throttle.forgiven_adoption]
      split
      · rfl
      · rw [Throttle.forgiven_checkDeeds]
  | finished result => rfl

theorem Room.forgiven_roundDeeds (gate : Gate) (now : Instant) (number : Nat)
    (callers : List Caller) (room : Room) :
    forgiven dimension value (roundDeeds gate now number callers room) = 0 := by
  induction callers generalizing number room with
  | nil => rfl
  | cons caller others inductionHypothesis =>
      rw [roundDeeds, forgiven_append, Caller.forgiven_deeds, inductionHypothesis]

theorem Room.forgiven_roundsDeeds (gate : Gate) (now : Instant) (rounds : Nat)
    (callers : List Caller) (room : Room) :
    forgiven dimension value (roundsDeeds gate now rounds callers room) = 0 := by
  induction rounds generalizing callers room with
  | zero => rfl
  | succ rounds inductionHypothesis =>
      rw [roundsDeeds, forgiven_append, forgiven_roundDeeds, inductionHypothesis]

theorem Guard.forgiven_checkAllDeeds (guard : Guard) (gate : Gate) (identities : List Identity)
    (now : Instant) : forgiven dimension value (guard.checkAllDeeds gate identities now) = 0 :=
  Room.forgiven_roundsDeeds dimension value gate now _ _ _

end Forgiven

end LoginThrottle
