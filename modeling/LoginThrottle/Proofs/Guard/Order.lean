import LoginThrottle.Proofs.Guard.Turns

/-!
# The order of the turns

The turn to fetch goes round in the order of the callers, so when it is a caller's turn those
before it are over.  Whoever goes on out of turn has only to do with the lists, which the
callers before it are done with.  So it makes no difference to what is left of the checks, seen
through one after the other, that a caller goes on.

## Main Definitions

* `Room.pendingFrom`: the numbers of the callers that have come to the meters
* `Room.InOrder`: the turn goes round in the order of the callers

## Main Statements

* `Room.InOrder.poll`, `Room.InOrder.pollAll`: the order is kept
* `Room.InOrder.settleAll_poll`: what is left of the checks comes to the same
* `Room.InOrder.over_rounds`: every round ends one more check
-/

namespace LoginThrottle

namespace Room

/-! ### The order of the turns -/

/-- The numbers of the callers that have come to the meters and are not over. -/
def pendingFrom (number : Nat) (callers : List Caller) : List Nat :=
  ((callers.zipIdx number).filter fun entry => entry.1.isPending).map Prod.snd

/-- The turn goes round in the order of the callers.  Those in front have gone on in this round,
and those at the back are still to do so. -/
structure InOrder (room : Room) (front back : List Caller) : Prop where
  begun : ∀ caller ∈ front, caller.HasBegun
  attended : ∀ number identity, front[number]? = some (.waiting identity) →
    room.guard.throttle.meters = none ∧ room.holder ≠ some number
  awaits : ∀ number (caller : Caller), (front ++ back)[number]? = some caller →
    caller.Awaits number room
  turns : room.guard.throttle.meters = none →
    room.holder = (pendingFrom 0 (front ++ back)).head? ∧
      room.queue = (pendingFrom 0 (front ++ back)).tail
  together : back.Pairwise fun earlier later => later.HasBegun → earlier.HasBegun

variable {room : Room} {front back : List Caller} {caller : Caller} {number : Nat}

theorem pendingFrom_append (number : Nat) (first second : List Caller) :
    pendingFrom number (first ++ second) =
      pendingFrom number first ++ pendingFrom (number + first.length) second := by
  rw [pendingFrom, List.zipIdx_append, List.filter_append, List.map_append]
  rfl

theorem pendingFrom_cons (number : Nat) (caller : Caller) (others : List Caller) :
    pendingFrom number (caller :: others) =
      (if caller.isPending then [number] else []) ++ pendingFrom (number + 1) others := by
  rw [pendingFrom, List.zipIdx_cons, List.filter_cons]
  split <;> rfl

theorem mem_pendingFrom_iff {callers : List Caller} {start : Nat} :
    number ∈ pendingFrom start callers ↔
      start ≤ number ∧ ∃ caller, callers[number - start]? = some caller ∧
        caller.isPending = true := by
  simp only [pendingFrom, List.mem_map, List.mem_filter, Prod.exists, exists_eq_right,
    List.mk_mem_zipIdx_iff_le_and_getElem?_sub]
  constructor
  · rintro ⟨caller, ⟨above, found⟩, pending⟩
    exact ⟨above, caller, found, pending⟩
  · rintro ⟨above, caller, found, pending⟩
    exact ⟨caller, ⟨above, found⟩, pending⟩

theorem lt_of_mem_pendingFrom (member : number ∈ pendingFrom 0 front) : number < front.length := by
  obtain ⟨-, caller, found, -⟩ := mem_pendingFrom_iff.1 member
  exact (List.getElem?_eq_some_iff.1 found).1

theorem pendingFrom_eq_nil_iff {callers : List Caller} {start : Nat} :
    pendingFrom start callers = [] ↔ ∀ caller ∈ callers, caller.isPending = false := by
  induction callers generalizing start with
  | nil => simp [pendingFrom]
  | cons caller others inductionHypothesis =>
      rw [pendingFrom_cons, List.append_eq_nil_iff, inductionHypothesis, List.forall_mem_cons]
      cases caller.isPending <;> simp

/-- Callers that are over have left the meters behind. -/
theorem pendingFrom_of_over {callers : List Caller}
    (allOver : ∀ caller ∈ callers, caller.IsOver) (start : Nat) :
    pendingFrom start callers = [] := by
  refine pendingFrom_eq_nil_iff.2 fun caller member => ?_
  obtain ⟨result, rfl⟩ := allOver caller member
  rfl

/-- Callers that have not begun have not come to the meters. -/
theorem pendingFrom_of_together (unbegun : ¬ caller.HasBegun)
    (together : (caller :: back).Pairwise fun earlier later =>
      later.HasBegun → earlier.HasBegun) (start : Nat) : pendingFrom start back = [] := by
  refine pendingFrom_eq_nil_iff.2 fun later member => ?_
  have unbegunToo : ¬ later.HasBegun := fun begun =>
    unbegun ((List.pairwise_cons.1 together).1 later member begun)
  cases later with
  | arriving identity => rfl
  | _ => exact absurd trivial unbegunToo

theorem getElem?_append_cons_of_ne {polled : Caller} (different : number ≠ front.length) :
    (front ++ polled :: back)[number]? = (front ++ caller :: back)[number]? := by
  rcases Nat.lt_or_gt_of_ne different with before | behind
  · rw [List.getElem?_append_left before, List.getElem?_append_left before]
  · have positive : number - front.length ≠ 0 := by omega
    obtain ⟨more, shift⟩ := Nat.exists_eq_succ_of_ne_zero positive
    rw [List.getElem?_append_right (Nat.le_of_lt behind),
      List.getElem?_append_right (Nat.le_of_lt behind), shift, List.getElem?_cons_succ,
      List.getElem?_cons_succ]

/-- A caller stands behind as many others as its number says. -/
theorem exists_of_getElem? {callers : List Caller} (found : callers[number]? = some caller) :
    ∃ before behind, callers = before ++ caller :: behind ∧ before.length = number := by
  obtain ⟨bound, here⟩ := List.getElem?_eq_some_iff.1 found
  refine ⟨callers.take number, callers.drop (number + 1), ?_, ?_⟩
  · rw [← here, List.getElem_cons_drop, List.take_append_drop]
  · exact List.length_take_of_le (Nat.le_of_lt bound)

namespace InOrder

/-- If nobody but the first caller at the back can have the turn, nobody in front waits for it. -/
theorem pendingFrom_of_free (inOrder : room.InOrder front (caller :: back))
    (unmade : room.guard.throttle.meters = none)
    (free : ∀ holder, room.holder = some holder → holder = front.length) :
    pendingFrom 0 front = [] := by
  cases pending : pendingFrom 0 front with
  | nil => rfl
  | cons first others =>
      have held : room.holder = some first := by
        rw [(inOrder.turns unmade).1, pendingFrom_append, pending]
        rfl
      have member : first ∈ pendingFrom 0 front := by
        rw [pending]
        exact List.mem_cons_self
      exact absurd (free first held) (Nat.ne_of_lt (lt_of_mem_pendingFrom member))

theorem over_of_free (inOrder : room.InOrder front (caller :: back))
    (unmade : room.guard.throttle.meters = none)
    (free : ∀ holder, room.holder = some holder → holder = front.length) :
    ∀ other ∈ front, other.IsOver := by
  have nobody := inOrder.pendingFrom_of_free unmade free
  intro other member
  exact Caller.isOver_of_not_pending (inOrder.begun other member)
    (pendingFrom_eq_nil_iff.1 nobody other member)

/-- Once there are meters, those in front are over. -/
theorem over_of_made (inOrder : room.InOrder front back)
    (made : room.guard.throttle.meters ≠ none) : ∀ other ∈ front, other.IsOver := by
  intro other member
  obtain ⟨number, found⟩ := List.getElem?_of_mem member
  cases other with
  | arriving identity => exact absurd (inOrder.begun _ member) id
  | waiting identity => exact absurd (inOrder.attended number identity found).1 made
  | fetching identity answer =>
      have bound := (List.getElem?_eq_some_iff.1 found).1
      have awaits := inOrder.awaits number _ ((List.getElem?_append_left bound).trans found)
      exact absurd awaits.1.2 made
  | finished result => exact ⟨result, rfl⟩

/-- Whoever fetches has the turn. -/
theorem taken (inOrder : room.InOrder front back) {identity : Identity}
    {answer : Except Fault (List Limit)}
    (found : (front ++ back)[number]? = some (.fetching identity answer)) : room.Taken number :=
  (inOrder.awaits number _ found).1

/-- The first caller at the back has the number of those in front. -/
theorem getElem?_middle : (front ++ caller :: back)[front.length]? = some caller := by
  rw [List.getElem?_append_right (Nat.le_refl _), Nat.sub_self, List.getElem?_cons_zero]

/-- Nobody else has the turn of a caller that fetches. -/
theorem eq_of_holder (taken : room.Taken number) {other : Nat} (held : room.holder = some other) :
    other = number :=
  Option.some.inj (held.symm.trans taken.1)

variable {gate : Gate} {now : Instant} {polled : Caller} {after : Room}

/-- A caller goes on ahead when those before it are over, or it goes on aside, with the throttle
and the turn left alone. -/
theorem ahead_or_aside (inOrder : room.InOrder front (caller :: back))
    (advance : caller.Advance front.length gate now room (polled, after)) :
    ((∀ other ∈ front, other.IsOver) ∧
      caller.settle gate now room.guard = polled.settle gate now after.guard) ∨
    (room.Undisturbed after ∧
      ∀ throttle, caller.settle gate now ⟨room.guard.rules, throttle⟩ =
        polled.settle gate now ⟨after.guard.rules, throttle⟩) := by
  generalize outcome_eq : (polled, after) = outcome at advance
  cases advance with
  | decide idle same =>
      cases outcome_eq
      exact .inr ⟨⟨rfl, rfl⟩, same⟩
  | queue unmade busy same =>
      cases outcome_eq
      exact .inr ⟨⟨rfl, rfl⟩, same⟩
  | stay unmade other =>
      cases outcome_eq
      exact .inr ⟨.refl room, fun _ => rfl⟩
  | pass made still settled =>
      cases outcome_eq
      exact .inl ⟨inOrder.over_of_made made, settled⟩
  | @ask _ identity rules unmade turn settled =>
      refine .inl ⟨inOrder.over_of_free unmade fun holder held => ?_, ?_⟩
      · rcases turn with ⟨-, free⟩ | ⟨-, turn⟩
        · rw [free] at held
          cases held
        · exact Option.some.inj (held.symm.trans turn)
      · have uninitialized := Caller.isInitialized_eq_false_iff.2 unmade
        cases outcome_eq
        rw [settled]
        simp only [Caller.settle, Guard.conclude, uninitialized, Bool.false_eq_true, if_false]
        rfl
  | learn holder_eq queue_eq settled =>
      have taken := inOrder.taken getElem?_middle
      cases outcome_eq
      exact .inl ⟨inOrder.over_of_free taken.2 fun _ => eq_of_holder taken, settled⟩

/-- What is left of the checks, seen through one after the other, comes to the same before and
after a caller goes on. -/
theorem settleAll_poll (inOrder : room.InOrder front (caller :: back))
    (advance : caller.Advance front.length gate now room (polled, after)) :
    Caller.settleAll gate now (front ++ caller :: back) room.guard =
      Caller.settleAll gate now (front ++ polled :: back) after.guard := by
  rcases inOrder.ahead_or_aside advance with ⟨allOver, settled⟩ | ⟨same, settled⟩
  · exact Caller.settleAll_ahead allOver settled back
  · have spared : { room.guard with rules := after.guard.rules } = after.guard :=
      congrArg (Guard.mk after.guard.rules) same.throttle_eq.symm
    rw [Caller.settleAll_aside inOrder.begun settled back, spared]

theorem hasBegun_of_advance (advance : caller.Advance number gate now room (polled, after)) :
    polled.HasBegun := by
  generalize outcome_eq : (polled, after) = outcome at advance
  cases advance <;> cases outcome_eq <;> trivial

/-- A caller that waits after it has gone on does so behind another one that has the turn. -/
theorem attended_of_advance (inOrder : room.InOrder front (caller :: back))
    (advance : caller.Advance front.length gate now room (polled, after)) {identity : Identity}
    (waits : polled = .waiting identity) :
    after.guard.throttle.meters = none ∧ after.holder ≠ some front.length := by
  generalize outcome_eq : (polled, after) = outcome at advance
  cases advance with
  | queue unmade busy same =>
      cases outcome_eq
      refine ⟨unmade, fun turn => ?_⟩
      have held := turn.symm.trans (inOrder.turns unmade).1
      have member := List.mem_of_mem_head? held.symm
      rw [pendingFrom_append, pendingFrom_cons,
        pendingFrom_of_together id inOrder.together] at member
      simp only [Caller.isPending, Bool.false_eq_true, if_false, List.append_nil] at member
      exact Nat.lt_irrefl _ (lt_of_mem_pendingFrom member)
  | stay unmade other =>
      cases outcome_eq
      exact ⟨unmade, other⟩
  | _ =>
      cases outcome_eq
      cases waits

/-- The turns after a caller has gone on. -/
theorem turns_of_advance (inOrder : room.InOrder front (caller :: back))
    (advance : caller.Advance front.length gate now room (polled, after))
    (unmade : after.guard.throttle.meters = none) :
    after.holder = (pendingFrom 0 (front ++ polled :: back)).head? ∧
      after.queue = (pendingFrom 0 (front ++ polled :: back)).tail := by
  have turns := inOrder.turns
  simp only [pendingFrom_append, pendingFrom_cons, Nat.zero_add] at turns ⊢
  generalize outcome_eq : (polled, after) = outcome at advance
  cases advance with
  | decide idle same =>
      cases outcome_eq
      rw [idle] at turns
      exact turns unmade
  | queue unmade busy same =>
      cases outcome_eq
      obtain ⟨holder_eq, queue_eq⟩ := turns unmade
      rw [pendingFrom_of_together id inOrder.together] at holder_eq queue_eq ⊢
      simp only [Caller.isPending, Bool.false_eq_true, if_false, List.append_nil, if_true]
        at holder_eq queue_eq ⊢
      cases pending : pendingFrom 0 front with
      | nil =>
          rw [pending] at holder_eq
          exact absurd holder_eq busy
      | cons first others =>
          rw [pending] at holder_eq queue_eq
          exact ⟨holder_eq, congrArg (· ++ [front.length]) queue_eq⟩
  | stay unmade other =>
      cases outcome_eq
      exact turns unmade
  | pass made still settled =>
      cases outcome_eq
      exact absurd unmade still
  | ask unmade turn settled =>
      cases outcome_eq
      obtain ⟨holder_eq, queue_eq⟩ := turns unmade
      rcases turn with ⟨rfl, free⟩ | ⟨rfl, held⟩
      · rw [pendingFrom_of_together id inOrder.together] at holder_eq queue_eq ⊢
        simp only [Caller.isPending, Bool.false_eq_true, if_false, List.append_nil, if_true]
          at holder_eq queue_eq ⊢
        have nobody := List.head?_eq_none_iff.1 (holder_eq.symm.trans free)
        rw [nobody] at queue_eq ⊢
        exact ⟨rfl, queue_eq⟩
      · exact ⟨held.symm.trans holder_eq, queue_eq⟩
  | learn released queue_eq settled =>
      cases outcome_eq
      have taken := inOrder.taken getElem?_middle
      obtain ⟨-, queued⟩ := turns taken.2
      rw [inOrder.pendingFrom_of_free taken.2 fun _ => eq_of_holder taken] at queued ⊢
      rw [released, queue_eq, queued]
      exact ⟨rfl, rfl⟩

/-- The order is kept when a caller goes on. -/
theorem poll (inOrder : room.InOrder front (caller :: back)) (gate : Gate) (now : Instant) :
    (caller.poll front.length gate now room).2.InOrder
      (front ++ [(caller.poll front.length gate now room).1]) back := by
  have advance := Caller.poll_advance front.length gate now room caller
  have goesOn := Caller.poll_goesOn gate now (inOrder.awaits _ _ getElem?_middle)
  generalize caller.poll front.length gate now room = outcome at advance goesOn
  obtain ⟨polled, after⟩ := outcome
  refine ⟨?_, ?_, ?_, ?_, (List.pairwise_cons.1 inOrder.together).2⟩
  · intro other member
    rcases List.mem_append.1 member with before | here
    · exact inOrder.begun other before
    · exact List.mem_singleton.1 here ▸ hasBegun_of_advance advance
  · intro number identity found
    rcases Nat.lt_trichotomy number front.length with before | rfl | behind
    · rw [List.getElem?_append_left before] at found
      rcases inOrder.ahead_or_aside advance with ⟨allOver, -⟩ | ⟨same, -⟩
      · obtain ⟨result, finished⟩ := allOver _ (List.mem_of_getElem? found)
        cases finished
      · have attended := inOrder.attended number identity found
        rwa [← same.throttle_eq, ← same.holder_eq] at attended
    · rw [getElem?_middle] at found
      exact inOrder.attended_of_advance advance (Option.some.inj found)
    · have outside : (front ++ [polled]).length ≤ number := by
        rw [List.length_append, List.length_singleton]
        exact behind
      rw [List.getElem?_eq_none outside] at found
      cases found
  · rw [List.append_assoc, List.singleton_append]
    intro number other found
    by_cases here : number = front.length
    · subst here
      rw [getElem?_middle] at found
      exact Option.some.inj found ▸ goesOn.awaits
    · rw [getElem?_append_cons_of_ne here] at found
      exact (inOrder.awaits number other found).of_undisturbed (goesOn.spares number here)
  · rw [List.append_assoc, List.singleton_append]
    exact inOrder.turns_of_advance advance

end InOrder

/-! ### Rounds -/

variable {gate : Gate} {now : Instant}

theorem pollAll_append (number : Nat) (front back : List Caller) (room : Room) :
    pollAll gate now number (front ++ back) room =
      ((pollAll gate now number front room).1 ++
          (pollAll gate now (number + front.length) back (pollAll gate now number front room).2).1,
        (pollAll gate now (number + front.length) back
          (pollAll gate now number front room).2).2) := by
  induction front generalizing number room with
  | nil => rfl
  | cons caller others inductionHypothesis =>
      have shift : number + 1 + others.length = number + (others.length + 1) := by omega
      simp only [List.cons_append, pollAll, inductionHypothesis, List.length_cons, shift]

theorem length_pollAll (number : Nat) (callers : List Caller) (room : Room) :
    (pollAll gate now number callers room).1.length = callers.length := by
  induction callers generalizing number room with
  | nil => rfl
  | cons caller others inductionHypothesis =>
      rw [pollAll, List.length_cons, List.length_cons, inductionHypothesis]

/-- Callers that are over have nothing more to do. -/
theorem pollAll_over {callers : List Caller} (allOver : ∀ caller ∈ callers, caller.IsOver)
    (number : Nat) (room : Room) : pollAll gate now number callers room = (callers, room) := by
  induction callers generalizing number with
  | nil => rfl
  | cons caller others inductionHypothesis =>
      obtain ⟨result, rfl⟩ := allOver caller List.mem_cons_self
      have overLater other member := allOver other (List.mem_cons_of_mem _ member)
      simp only [pollAll, Caller.poll, inductionHypothesis overLater]

namespace InOrder

/-- The order is kept while the first callers at the back go on, and what is left of the checks
comes to the same. -/
theorem pollAll {polled : List Caller} (inOrder : room.InOrder front (polled ++ back)) :
    (pollAll gate now front.length polled room).2.InOrder
        (front ++ (pollAll gate now front.length polled room).1) back ∧
      Caller.settleAll gate now (front ++ (polled ++ back)) room.guard =
        Caller.settleAll gate now
          (front ++ ((pollAll gate now front.length polled room).1 ++ back))
          (pollAll gate now front.length polled room).2.guard := by
  induction polled generalizing front room with
  | nil =>
      rw [Room.pollAll, List.append_nil]
      exact ⟨inOrder, rfl⟩
  | cons caller others inductionHypothesis =>
      have settled := inOrder.settleAll_poll
        (Caller.poll_advance front.length gate now room caller)
      obtain ⟨inOrderAfter, settledLater⟩ := inductionHypothesis (inOrder.poll gate now)
      simp only [List.append_assoc, List.singleton_append, List.length_append,
        List.length_singleton] at inOrderAfter settledLater
      exact ⟨inOrderAfter, settled.trans settledLater⟩

/-- Between two rounds everybody is at the back again. -/
theorem again {callers : List Caller} (inOrder : room.InOrder callers []) :
    room.InOrder [] callers where
  begun := fun _ member => nomatch member
  attended := fun _ _ found => nomatch found
  awaits := by
    have awaits := inOrder.awaits
    rwa [List.append_nil] at awaits
  turns := by
    have turns := inOrder.turns
    rwa [List.append_nil] at turns
  together := List.pairwise_of_forall_mem_list fun earlier member _ _ _ =>
    inOrder.begun earlier member

/-- Nobody has begun. -/
theorem arriving (guard : Guard) (identities : List Identity) :
    (Room.new guard).InOrder [] (identities.map .arriving) where
  begun := fun _ member => nomatch member
  attended := fun _ _ found => nomatch found
  awaits := by
    intro number caller found
    obtain ⟨identity, -, rfl⟩ := List.mem_map.1 (List.mem_of_getElem? found)
    trivial
  turns := by
    intro _
    have nobody : pendingFrom 0 (identities.map .arriving) = [] := by
      refine pendingFrom_eq_nil_iff.2 fun caller member => ?_
      obtain ⟨identity, -, rfl⟩ := List.mem_map.1 member
      rfl
    rw [List.nil_append, nobody]
    exact ⟨rfl, rfl⟩
  together := by
    refine List.pairwise_map.2 (List.pairwise_of_forall fun _ _ begun => ?_)
    exact absurd begun id

/-- The order is kept in a round, and what is left of the checks comes to the same. -/
theorem round {callers : List Caller} (inOrder : room.InOrder [] callers) (gate : Gate)
    (now : Instant) :
    (Room.pollAll gate now 0 callers room).2.InOrder (Room.pollAll gate now 0 callers room).1 [] ∧
      Caller.settleAll gate now callers room.guard =
        Caller.settleAll gate now (Room.pollAll gate now 0 callers room).1
          (Room.pollAll gate now 0 callers room).2.guard := by
  rw [← List.append_nil callers] at inOrder
  have kept := @pollAll room [] [] gate now callers inOrder
  simp only [List.nil_append, List.append_nil, List.length_nil] at kept
  exact kept

/-- The order is kept in every round, and what is left of the checks comes to the same. -/
theorem rounds {callers : List Caller} (inOrder : room.InOrder [] callers) (gate : Gate)
    (now : Instant) (count : Nat) :
    (pollRounds gate now count callers room).2.InOrder []
        (pollRounds gate now count callers room).1 ∧
      Caller.settleAll gate now callers room.guard =
        Caller.settleAll gate now (pollRounds gate now count callers room).1
          (pollRounds gate now count callers room).2.guard := by
  induction count generalizing callers room with
  | zero => exact ⟨inOrder, rfl⟩
  | succ fewer inductionHypothesis =>
      obtain ⟨inOrderAfter, settled⟩ := inOrder.round gate now
      obtain ⟨inOrderLast, settledLater⟩ := inductionHypothesis inOrderAfter.again
      exact ⟨inOrderLast, settled.trans settledLater⟩

/-! ### All checks come to an end -/

/-- After a round the next caller that is not over is about to end its check. -/
theorem isOver_poll {before rest : List Caller}
    (inOrder : room.InOrder (before ++ caller :: rest) [])
    (overBefore : ∀ other ∈ before, other.IsOver) :
    (caller.poll before.length gate now room).1.IsOver := by
  have member : caller ∈ before ++ caller :: rest :=
    List.mem_append_right _ List.mem_cons_self
  cases caller with
  | arriving identity => exact absurd (inOrder.begun _ member) id
  | waiting identity =>
      -- The turn would be its own, but then it would have asked for limits.
      obtain ⟨unmade, other⟩ := inOrder.attended _ identity getElem?_middle
      have nobody := pendingFrom_of_over overBefore 0
      have turn := (inOrder.turns unmade).1
      rw [List.append_nil, pendingFrom_append, nobody, pendingFrom_cons, Nat.zero_add] at turn
      exact absurd turn other
  | fetching identity answer =>
      simp only [Caller.poll, Caller.endFetch]
      split
      · exact ⟨_, rfl⟩
      · exact ⟨_, rfl⟩
  | finished result => exact ⟨result, rfl⟩

/-- A round ends one more check. -/
theorem over_round {callers : List Caller} (inOrder : room.InOrder callers []) {ended : Nat}
    (allOver : ∀ caller ∈ callers.take ended, caller.IsOver) :
    ∀ caller ∈ (Room.pollAll gate now 0 callers room).1.take (ended + 1), caller.IsOver := by
  rcases Nat.lt_or_ge ended callers.length with fewer | all
  · obtain ⟨before, rest, split, rfl⟩ := exists_of_getElem? (List.getElem?_eq_getElem fewer)
    generalize callers[before.length] = caller at split
    subst split
    rw [List.take_left] at allOver
    have ends := @isOver_poll room caller gate now before rest inOrder allOver
    rw [pollAll_append, pollAll_over allOver, Nat.zero_add, Room.pollAll]
    intro other member
    rw [List.take_length_add_append, List.take_succ_cons, List.take_zero] at member
    rcases List.mem_append.1 member with earlier | here
    · exact allOver other earlier
    · exact List.mem_singleton.1 here ▸ ends
  · rw [List.take_of_length_le all] at allOver
    rw [pollAll_over allOver]
    intro caller member
    exact allOver caller (List.mem_of_mem_take member)

/-- So many rounds end so many checks. -/
theorem over_rounds {callers : List Caller} (inOrder : room.InOrder callers []) {ended : Nat}
    (allOver : ∀ caller ∈ callers.take ended, caller.IsOver) (count : Nat) :
    ∀ caller ∈ (pollRounds gate now count callers room).1.take (ended + count),
      caller.IsOver := by
  induction count generalizing callers room ended with
  | zero => exact allOver
  | succ fewer inductionHypothesis =>
      have next := inductionHypothesis (inOrder.again.round gate now).1 (inOrder.over_round allOver)
      rwa [Nat.add_right_comm, Nat.add_assoc] at next

end InOrder

theorem length_pollRounds (gate : Gate) (now : Instant) (count : Nat) (callers : List Caller)
    (room : Room) : (pollRounds gate now count callers room).1.length = callers.length := by
  induction count generalizing callers room with
  | zero => rfl
  | succ fewer inductionHypothesis =>
      rw [pollRounds, inductionHypothesis, length_pollAll]

end Room

end LoginThrottle
