import LoginThrottle.Proofs.Guard.Order

/-!
# Overlapping checks in a row

Checks that overlap come out like checks one after the other, down to the last bucket.

## Main Definitions

* `Guard.moment`: the callers and the room at any moment between two polls

## Main Statements

* `Guard.checkAll_eq_checkEach`: the same results and the same guard
* `Guard.checkAll_linearizes`: and nobody fetches out of turn
-/

namespace LoginThrottle

/-- Checks that overlap come out like checks one after the other. -/
theorem Guard.checkAll_eq_checkEach (guard : Guard) (gate : Gate) (identities : List Identity)
    (now : Instant) : guard.checkAll gate identities now = guard.checkEach gate identities now := by
  have inOrder := Room.InOrder.arriving guard identities
  -- One round to come to the meters, and one for each caller after it.
  obtain ⟨inOrderOnce, -⟩ := inOrder.round gate now
  have allOver := @Room.InOrder.over_rounds _ gate now _ inOrderOnce 0
    (fun _ member => nomatch member) identities.length
  obtain ⟨-, settled⟩ := inOrder.rounds gate now (identities.length + 1)
  rw [Nat.zero_add, List.take_of_length_le] at allOver
  · rw [← Caller.settleAll_arriving]
    refine Eq.trans ?_ settled.symm
    exact (Caller.settleAll_over gate now allOver _).symm
  · refine Nat.le_of_eq ?_
    rw [Room.length_pollRounds, Room.length_pollAll, List.length_map]

/-! ### Whose checks they are -/

namespace Caller

/-- The identity whose check is not over. -/
def identity? : Caller → Option Identity
  | .arriving identity => some identity
  | .waiting identity => some identity
  | .fetching identity _ => some identity
  | .finished _ => none

/-- Whether the caller has asked for limits and not learned the answer. -/
def isFetching : Caller → Bool
  | .fetching _ _ => true
  | _ => false

/-- A caller that goes on checks the identity it came with. -/
theorem identity?_of_poll {number : Nat} {gate : Gate} {now : Instant} {room : Room}
    {caller : Caller} {identity : Identity}
    (named : (caller.poll number gate now room).1.identity? = some identity) :
    caller.identity? = some identity := by
  have advance := poll_advance number gate now room caller
  generalize caller.poll number gate now room = outcome at advance named
  cases advance with
  | decide idle same => cases named
  | queue unmade busy same => exact named
  | stay unmade other => exact named
  | pass made still settled => cases named
  | ask unmade turn settled => rcases turn with ⟨rfl, -⟩ | ⟨rfl, -⟩ <;> exact named
  | learn released queue_eq settled => cases named

end Caller

namespace Room

variable {gate : Gate} {now : Instant} {identities : List Identity}

/-- The checks that are not over are those of the identities with the same numbers. -/
def ChecksOf (identities : List Identity) (callers : List Caller) : Prop :=
  ∀ (number : Nat) (caller : Caller) (identity : Identity), callers[number]? = some caller →
    caller.identity? = some identity → identities[number]? = some identity

/-- Whoever has gone on in a round was there before it. -/
theorem exists_of_getElem?_pollAll {callers : List Caller} {start number : Nat} {room : Room}
    {polled : Caller} (found : (pollAll gate now start callers room).1[number]? = some polled) :
    ∃ caller between, callers[number]? = some caller ∧
      polled = (caller.poll (start + number) gate now between).1 := by
  induction callers generalizing start number room with
  | nil => cases found
  | cons caller others inductionHypothesis =>
      cases number with
      | zero => exact ⟨caller, room, rfl, (Option.some.inj found).symm⟩
      | succ fewer =>
          obtain ⟨earlier, between, was, same⟩ := inductionHypothesis found
          refine ⟨earlier, between, was, ?_⟩
          rwa [Nat.add_right_comm, Nat.add_assoc] at same

theorem checksOf_arriving (identities : List Identity) :
    ChecksOf identities (identities.map .arriving) := by
  intro number caller identity found named
  rw [List.getElem?_map, Option.map_eq_some_iff] at found
  obtain ⟨known, here, rfl⟩ := found
  exact here.trans named

theorem ChecksOf.pollAll {polled rest : List Caller} {room : Room}
    (checks : ChecksOf identities (polled ++ rest)) :
    ChecksOf identities ((pollAll gate now 0 polled room).1 ++ rest) := by
  intro number caller identity found named
  have same := @length_pollAll gate now 0 polled room
  rcases Nat.lt_or_ge number polled.length with early | late
  · rw [List.getElem?_append_left (same ▸ early)] at found
    obtain ⟨before, between, was, rfl⟩ := exists_of_getElem?_pollAll found
    refine checks number before identity ?_ (Caller.identity?_of_poll named)
    rw [List.getElem?_append_left early, was]
  · rw [List.getElem?_append_right (same ▸ late), same] at found
    refine checks number caller identity ?_ named
    rw [List.getElem?_append_right late, found]

theorem ChecksOf.pollRounds {callers : List Caller} {room : Room}
    (checks : ChecksOf identities callers) (count : Nat) :
    ChecksOf identities (pollRounds gate now count callers room).1 := by
  induction count generalizing callers room with
  | zero => exact checks
  | succ fewer inductionHypothesis =>
      refine inductionHypothesis ?_
      rw [← List.append_nil callers] at checks
      have after := @ChecksOf.pollAll gate now identities callers [] room checks
      rwa [List.append_nil] at after

/-! ### Fetches -/

namespace InOrder

variable {room : Room} {front back : List Caller} {identity heir : Identity}
  {answer : Except Fault (List Limit)}

/-- At most one caller fetches. -/
theorem countP_isFetching_le (inOrder : room.InOrder front back) :
    (front ++ back).countP Caller.isFetching ≤ 1 := by
  -- Whoever fetches has the turn, so its number is that of the turn.
  have alone (start : Nat) (callers : List Caller)
      (turn : ∀ (number : Nat) (caller : Caller), callers[number]? = some caller →
        caller.isFetching = true → room.holder = some (start + number)) :
      callers.countP Caller.isFetching ≤ 1 := by
    induction callers generalizing start with
    | nil => exact Nat.zero_le 1
    | cons caller others inductionHypothesis =>
        have turnLater (number : Nat) (other : Caller) (found : others[number]? = some other)
            (fetches : other.isFetching = true) : room.holder = some (start + 1 + number) := by
          rw [turn (number + 1) other found fetches, Nat.add_right_comm, Nat.add_assoc]
        cases here : caller.isFetching with
        | false =>
            rw [List.countP_cons_of_neg (by rw [here]; exact Bool.false_ne_true)]
            exact inductionHypothesis (start + 1) turnLater
        | true =>
            have nobodyElse : others.countP Caller.isFetching = 0 := by
              refine List.countP_eq_zero.2 fun other member fetches => ?_
              obtain ⟨number, found⟩ := List.getElem?_of_mem member
              have held := turnLater number other found fetches
              have same := Option.some.inj ((turn 0 caller rfl here).symm.trans held)
              omega
            refine Nat.le_of_eq ?_
            rw [List.countP_cons_of_pos here, nobodyElse, Nat.zero_add]
  refine alone 0 (front ++ back) fun number caller found fetches => ?_
  cases caller with
  | fetching identity answer => rw [Nat.zero_add, (inOrder.taken found).1]
  | _ => cases fetches

variable {fault : Fault}

/-- A caller whose fetch fails leaves the guard as it is and passes the turn on. -/
theorem endFetch_of_failed (failed : (room.guard.throttle.adopt answer).1 = .error fault) :
    Caller.endFetch identity answer now room = (.finished (.error fault), room.release) := by
  obtain ⟨⟨rules, throttle⟩, holder, queue⟩ := room
  rcases answer with problem | _ | ⟨limit, limits⟩
  · obtain rfl := Except.error.inj failed
    rfl
  · obtain rfl := Except.error.inj failed
    rfl
  · cases failed

/-- Between a caller that fetches and the first one that waits everybody is over. -/
theorem over_between {idle rest : List Caller}
    (inOrder : room.InOrder front (.fetching identity answer :: (idle ++ .waiting heir :: rest)))
    (first : ∀ other ∈ idle, ∀ waiter, other ≠ .waiting waiter) :
    ∀ other ∈ idle, other.IsOver := by
  intro other member
  cases other with
  | arriving late =>
      -- The one that waits has begun, so this one has.
      have behind := (List.pairwise_cons.1 inOrder.together).2
      exact absurd trivial ((List.pairwise_append.1 behind).2.2 _ member _ List.mem_cons_self)
  | waiting waiter => exact absurd rfl (first _ member waiter)
  | fetching other otherAnswer =>
      obtain ⟨number, found⟩ := List.getElem?_of_mem member
      have bound := (List.getElem?_eq_some_iff.1 found).1
      have shifted : (front ++ .fetching identity answer :: (idle ++ .waiting heir :: rest))[
          front.length + (number + 1)]? = some (.fetching other otherAnswer) := by
        rw [List.getElem?_append_right (Nat.le_add_right _ _), Nat.add_sub_cancel_left,
          List.getElem?_cons_succ, List.getElem?_append_left bound, found]
      have same := eq_of_holder (inOrder.taken getElem?_middle) (inOrder.taken shifted).1
      omega
  | finished result => exact ⟨result, rfl⟩

/-- The first caller that waits stands behind the one that fetches. -/
theorem exists_idle {behind : List Caller} {next : Nat}
    (inOrder : room.InOrder front (.fetching identity answer :: behind))
    (waits : (front ++ .fetching identity answer :: behind)[next]? = some (.waiting heir))
    (first : ∀ earlier < next, ∀ other,
      (front ++ .fetching identity answer :: behind)[earlier]? ≠ some (.waiting other)) :
    ∃ idle rest, behind = idle ++ .waiting heir :: rest ∧ next = front.length + 1 + idle.length ∧
      ∀ other ∈ idle, ∀ waiter, other ≠ .waiting waiter := by
  have taken := inOrder.taken getElem?_middle
  have allOver := inOrder.over_of_free taken.2 fun _ => eq_of_holder taken
  rcases Nat.lt_trichotomy next front.length with before | rfl | after
  · rw [List.getElem?_append_left before] at waits
    obtain ⟨result, finished⟩ := allOver _ (List.mem_of_getElem? waits)
    cases finished
  · rw [getElem?_middle] at waits
    cases waits
  · obtain ⟨distance, rfl⟩ := Nat.exists_eq_add_of_lt after
    have shift (offset : Nat) : (front ++ .fetching identity answer :: behind)[
        front.length + offset + 1]? = behind[offset]? := by
      rw [Nat.add_assoc, List.getElem?_append_right (Nat.le_add_right _ _),
        Nat.add_sub_cancel_left, List.getElem?_cons_succ]
    rw [shift] at waits
    obtain ⟨idle, rest, rfl, rfl⟩ := exists_of_getElem? waits
    refine ⟨idle, rest, rfl, by omega, ?_⟩
    rintro other member waiter rfl
    obtain ⟨offset, found⟩ := List.getElem?_of_mem member
    have bound := (List.getElem?_eq_some_iff.1 found).1
    refine first (front.length + offset + 1) (by omega) waiter ?_
    rw [shift, List.getElem?_append_left bound, found]

/-- If a fetch fails, the first caller that waits is the next to fetch, for its own
dimensions. -/
theorem pollAll_of_failed {idle rest : List Caller}
    (inOrder : room.InOrder front (.fetching identity answer :: (idle ++ .waiting heir :: rest)))
    (failed : (room.guard.throttle.adopt answer).1 = .error fault)
    (first : ∀ other ∈ idle, ∀ waiter, other ≠ .waiting waiter) :
    (Room.pollAll gate now front.length (.fetching identity answer :: (idle ++ [.waiting heir]))
        room).1 =
      .finished (.error fault) ::
        (idle ++ [.fetching heir (room.guard.throttle.store.answer heir.dimensions)]) := by
  have taken := inOrder.taken getElem?_middle
  have allOver := inOrder.over_between first
  have nobodyBefore := inOrder.pendingFrom_of_free taken.2 fun _ => eq_of_holder taken
  have nobodyBetween := pendingFrom_of_over allOver (front.length + 1)
  have turn : room.release.holder = some (front.length + 1 + idle.length) := by
    rw [(Caller.release_eq room).1, (inOrder.turns taken.2).2]
    simp only [pendingFrom_append, pendingFrom_cons, nobodyBefore, nobodyBetween, Nat.zero_add]
    rfl
  have uninitialized := Caller.isInitialized_eq_false_iff.2 taken.2
  rw [Room.pollAll, Caller.poll, endFetch_of_failed failed]
  simp only [pollAll_append, pollAll_over allOver, Room.pollAll, Caller.poll, turn, uninitialized,
    Bool.false_eq_true, if_false, if_true, Caller.beginFetch, Caller.guard_release]
  rfl

end InOrder

end Room

/-! ### Any moment -/

/-- The callers and the room after so many rounds, when those before a number have gone on once
more. -/
def Guard.moment (guard : Guard) (gate : Gate) (identities : List Identity) (now : Instant)
    (rounds number : Nat) : List Caller × Room :=
  let (callers, room) :=
    Room.pollRounds gate now rounds (identities.map .arriving) (.new guard)
  let (front, room) := Room.pollAll gate now 0 (callers.take number) room
  (front ++ callers.drop number, room)

/-- At any moment the callers are in order, and those at the back go on one after the other. -/
theorem Guard.exists_moment (guard : Guard) (gate : Gate) (identities : List Identity)
    (now : Instant) (rounds number : Nat) :
    ∃ front back room, guard.moment gate identities now rounds number = (front ++ back, room) ∧
      front.length = min number identities.length ∧
      (front ++ back).length = identities.length ∧ room.InOrder front back ∧
      Room.ChecksOf identities (front ++ back) ∧
      ∀ polled rest, back = polled ++ rest →
        (guard.moment gate identities now rounds (number + polled.length)).1 =
          front ++ ((Room.pollAll gate now front.length polled room).1 ++ rest) := by
  have inOrder := ((Room.InOrder.arriving guard identities).rounds gate now rounds).1
  have checks := @Room.ChecksOf.pollRounds gate now identities _ (.new guard)
    (Room.checksOf_arriving identities) rounds
  have same := Room.length_pollRounds gate now rounds (identities.map .arriving) (.new guard)
  simp only [moment]
  generalize Room.pollRounds gate now rounds (identities.map .arriving) (.new guard) = reached
    at inOrder checks same
  obtain ⟨callers, room⟩ := reached
  have length_front := @Room.length_pollAll gate now 0 (callers.take number) room
  rw [← List.take_append_drop number callers] at inOrder checks
  rw [List.length_map] at same
  refine ⟨_, _, _, rfl, ?_, ?_, ?_, checks.pollAll, ?_⟩
  · rw [length_front, List.length_take, same]
  · rw [List.length_append, length_front, ← List.length_append, List.take_append_drop, same]
  · have kept := (@Room.InOrder.pollAll room [] (callers.drop number) gate now _ inOrder).1
    exact kept
  · rintro polled rest split
    have further : callers.take (number + polled.length) = callers.take number ++ polled := by
      rw [List.take_add, split, List.take_left]
    have beyond : callers.drop (number + polled.length) = rest := by
      rw [← List.drop_drop, split, List.drop_left]
    rw [further, beyond, Room.pollAll_append, length_front, Nat.zero_add, List.append_assoc]

/-- Checks that overlap have the results of checks one after the other, in the order of the
callers, and leave the same guard behind.  At any moment at most one caller fetches.  If its
fetch fails, its check ends in that fault, and the first caller that waits is the next to fetch,
for the dimensions of its own identity. -/
theorem Guard.checkAll_linearizes (guard : Guard) (gate : Gate) (identities : List Identity)
    (now : Instant) :
    guard.checkAll gate identities now = guard.checkEach gate identities now ∧
      ∀ rounds number,
        let before := guard.moment gate identities now rounds number
        before.1.countP Caller.isFetching ≤ 1 ∧
        ∀ identity answer fault, before.1[number]? = some (.fetching identity answer) →
          (before.2.guard.throttle.adopt answer).1 = .error fault →
          (guard.moment gate identities now rounds (number + 1)).1[number]? =
            some (.finished (.error fault)) ∧
          ∀ next heir, before.1[next]? = some (.waiting heir) →
            (∀ earlier < next, ∀ other, before.1[earlier]? ≠ some (.waiting other)) →
            number < next ∧ identities[next]? = some heir ∧
              (guard.moment gate identities now rounds (next + 1)).1[next]? =
                some (.fetching heir
                  (before.2.guard.throttle.store.answer heir.dimensions)) := by
  refine ⟨guard.checkAll_eq_checkEach gate identities now, fun rounds number => ?_⟩
  obtain ⟨front, back, room, moment_eq, length_front, length_eq, inOrder, checks, later⟩ :=
    guard.exists_moment gate identities now rounds number
  rw [moment_eq]
  refine ⟨inOrder.countP_isFetching_le, fun identity answer fault fetches failed => ?_⟩
  -- Whoever fetches here is the first caller at the back.
  have bound := (List.getElem?_eq_some_iff.1 fetches).1
  rw [length_eq] at bound
  rw [Nat.min_eq_left (Nat.le_of_lt bound)] at length_front
  subst length_front
  rw [List.getElem?_append_right (Nat.le_refl _), Nat.sub_self] at fetches
  obtain ⟨behind, rfl⟩ : ∃ behind, back = .fetching identity answer :: behind := by
    cases back with
    | nil => cases fetches
    | cons first behind => exact ⟨behind, by rw [Option.some.inj fetches]⟩
  refine ⟨?_, fun next heir waits first => ?_⟩
  · have polled := later [.fetching identity answer] behind rfl
    rw [List.length_singleton] at polled
    rw [polled]
    simp only [Room.pollAll, Caller.poll, Room.InOrder.endFetch_of_failed failed]
    exact Room.InOrder.getElem?_middle
  · obtain ⟨idle, rest, rfl, next_eq, nobodyWaits⟩ := inOrder.exists_idle waits first
    have polled := later (.fetching identity answer :: (idle ++ [.waiting heir])) rest (by simp)
    have length_polled : front.length +
        (Caller.fetching identity answer :: (idle ++ [.waiting heir])).length = next + 1 := by
      simp only [List.length_cons, List.length_append, List.length_nil]
      omega
    rw [inOrder.pollAll_of_failed failed nobodyWaits, length_polled] at polled
    refine ⟨by omega, checks next _ heir waits rfl, ?_⟩
    have length_before : next = (front ++ .finished (.error fault) :: idle).length := by
      rw [List.length_append, List.length_cons]
      omega
    rw [polled, List.cons_append, List.append_assoc, ← List.cons_append, ← List.append_assoc,
      length_before]
    exact Room.InOrder.getElem?_middle

/-- A guard whose first fetch of limits fails. -/
def Guard.unlucky : Guard :=
  ⟨.new .never, .new (.failingAtFirst [.plain "ip" 5, .plain "login" 7] 1) ⟨1, ⟨5⟩⟩⟩

/-- The first of two clients learns of the failure, and the second fetches for its own address
in the same round. -/
theorem Guard.unlucky_linearizes :
    let first := Identity.ofPairs [("ip", "10.0.0.8"), ("login", "root")]
    let second := Identity.ofPairs [("ip", "10.0.0.9")]
    let moment := unlucky.moment .throttle [first, second] .origin 1
    (moment 0).1[0]? = some (.fetching first (.error (.storage "fetch failed"))) ∧
      (moment 0).1[1]? = some (.waiting second) ∧
      (moment 1).1[0]? = some (.finished (.error (.storage "fetch failed"))) ∧
      (moment 2).1[1]? = some (.fetching second (.ok [.plain "ip" 5])) := by
  intro first second moment
  have fetches : (moment 0).1[0]? =
      some (.fetching first (.error (.storage "fetch failed"))) := rfl
  have waits : (moment 0).1[1]? = some (.waiting second) := rfl
  have nobodyBefore : ∀ earlier < 1, ∀ other, (moment 0).1[earlier]? ≠ some (.waiting other) := by
    intro earlier before other waiting
    obtain rfl : earlier = 0 := Nat.lt_one_iff.1 before
    exact nomatch fetches.symm.trans waiting
  obtain ⟨-, moments⟩ := unlucky.checkAll_linearizes .throttle [first, second] .origin
  obtain ⟨ended, next⟩ := (moments 1 0).2 first _ _ fetches rfl
  obtain ⟨-, -, asks⟩ := next 1 second waits nobodyBefore
  exact ⟨fetches, waits, ended, asks⟩

end LoginThrottle
