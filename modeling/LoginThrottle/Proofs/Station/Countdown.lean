import LoginThrottle.Proofs.Station.Invariant
import LoginThrottle.Proofs.Station.Screening
import LoginThrottle.Proofs.Throttle.Remaining

/-!
# Counting down

To one identity and at one reading of the clock, a throttle is a counter.  A question reads the
counter off, and a check passes and counts down as long as the counter is not zero.

## Main Definitions

* `Station.Inquiry`: what can be asked for an identity
* `Station.countdown`: the answers of a counter

## Main Statements

* `Station.result_inquiries`: a station at which the clock stands still answers like the counter
* `Station.allowed_predicts`: so a question foretells which checks will pass
-/

namespace LoginThrottle

namespace Station

/-- What can be asked for an identity: whether it passes, or how often it would. -/
inductive Inquiry
  | check
  | question
  deriving DecidableEq, Repr

/-- The event of asking something for an identity. -/
def Inquiry.event (identity : Identity) : Inquiry → Event
  | check => .check .throttle identity
  | question => .allowed identity

/-- The answers of a counter.  A check passes if something is left and takes one. -/
def countdown : Nat → List Inquiry → List (Except Fault Answer)
  | _, [] => []
  | left, .check :: later => .ok (.decision (decide (0 < left))) :: countdown (left - 1) later
  | left, .question :: later => .ok (.count left) :: countdown left later

/-- Whether an answer lets somebody pass. -/
def isPass : Except Fault Answer → Bool
  | .ok (.decision passed) => passed
  | _ => false

/-! ### Counters -/

theorem countdown_append (left : Nat) (first second : List Inquiry) :
    countdown left (first ++ second) =
      countdown left first ++ countdown (left - first.count .check) second := by
  induction first generalizing left with
  | nil => rfl
  | cons inquiry rest inductionHypothesis =>
      cases inquiry with
      | check =>
          have fewer : left - 1 - rest.count .check = left - (rest.count .check + 1) := by omega
          rw [List.cons_append, countdown, countdown, inductionHypothesis, List.count_cons_self,
            fewer]
          rfl
      | question =>
          have other : (Inquiry.question :: rest).count .check = rest.count .check :=
            List.count_cons_of_ne (by decide)
          rw [List.cons_append, countdown, countdown, inductionHypothesis, other]
          rfl

/-- As many checks pass as there were left, or all of them. -/
theorem countP_countdown (left : Nat) (inquiries : List Inquiry) :
    (countdown left inquiries).countP isPass = min left (inquiries.count .check) := by
  induction inquiries generalizing left with
  | nil => simp [countdown]
  | cons inquiry rest inductionHypothesis =>
      cases inquiry with
      | check =>
          rw [countdown, List.countP_cons, inductionHypothesis, List.count_cons_self]
          rcases Nat.eq_zero_or_pos left with rfl | positive
          · simp [isPass]
          · simp only [isPass, positive, decide_true, if_true]
            omega
      | question =>
          have other : (Inquiry.question :: rest).count .check = rest.count .check :=
            List.count_cons_of_ne (by decide)
          rw [countdown, List.countP_cons, inductionHypothesis, other]
          simp [isPass]

theorem length_countdown (left : Nat) (inquiries : List Inquiry) :
    (countdown left inquiries).length = inquiries.length := by
  induction inquiries generalizing left with
  | nil => rfl
  | cons inquiry rest inductionHypothesis =>
      cases inquiry <;> rw [countdown, List.length_cons, List.length_cons, inductionHypothesis]

theorem countdown_checks (left : Nat) :
    countdown left (List.replicate (left + 1) .check) =
      List.replicate left (.ok (.decision true)) ++ [.ok (.decision false)] := by
  induction left with
  | zero => rfl
  | succ fewer inductionHypothesis =>
      rw [List.replicate_succ, countdown, Nat.add_sub_cancel, inductionHypothesis,
        List.replicate_succ]
      rfl

/-- The checks among some inquiries are answered as without the questions. -/
theorem countdown_filter (left : Nat) (inquiries : List Inquiry) :
    ((inquiries.zip (countdown left inquiries)).filter fun entry => entry.1 = .check).map Prod.snd =
      countdown left (inquiries.filter fun inquiry => inquiry = .check) := by
  induction inquiries generalizing left with
  | nil => rfl
  | cons inquiry rest inductionHypothesis =>
      cases inquiry with
      | check => simp [countdown, inductionHypothesis]
      | question => simp [countdown, inductionHypothesis]

/-! ### Stations at which the clock stands still -/

/-- A station without a housekeeper. -/
def unattended (now : Instant) (rules : RuleStore) (throttle : Throttle) : Station :=
  ⟨now, ⟨rules, throttle⟩, .absent⟩

variable {now : Instant} {rules : RuleStore} {throttle : Throttle} {identity : Identity}

/-- Where the clock stands still, a station answers like a counter that starts with the least
of the attempts left along the dimensions. -/
theorem result_inquiries {lefts : List Nat} (named : identity.isEmpty = false)
    (leaves : throttle.Leaves identity now lefts)
    (bounded : ∀ left ∈ lefts, left ≤ largestCount) (inquiries : List Inquiry) :
    ((unattended now rules throttle).transcript (inquiries.map (Inquiry.event identity))).map
        Entry.result =
      countdown (lefts.foldl min largestCount) inquiries := by
  induction inquiries generalizing throttle lefts with
  | nil => rfl
  | cons inquiry rest inductionHypothesis =>
      cases inquiry with
      | check =>
          obtain ⟨answered, leavesAfter⟩ := leaves.satisfy named
          have later := inductionHypothesis leavesAfter (Throttle.le_of_mem_spend bounded)
          rw [Throttle.foldl_min_spend (leaves.ne_nil named) bounded] at later
          rw [Throttle.all_pos_iff_foldl_min (by decide : 0 < largestCount)] at answered
          rw [List.map_cons, transcript, List.map_cons, countdown, ← later]
          refine congrArg₂ List.cons ?_ rfl
          change (throttle.satisfy identity now).1.map Answer.decision = _
          rw [answered]
          rfl
      | question =>
          obtain ⟨answered, leavesAfter⟩ := leaves.allowed named
          have later := inductionHypothesis leavesAfter bounded
          rw [List.map_cons, transcript, List.map_cons, countdown, ← later]
          refine congrArg₂ List.cons ?_ rfl
          change (throttle.allowed identity now).1.map Answer.count = _
          rw [answered]
          rfl

/-- If a question is answered with a number, exactly so many checks of the identity pass at the
same reading and the one after them does not.  Further questions among the checks change none
of their results, and each of them is answered with the number less the checks that have
passed. -/
theorem allowed_predicts (reachable : throttle.Reachable)
    (fits : ∀ limit ∈ throttle.store.limits, limit.capacity ≤ largestCount)
    (now : Instant) (rules : RuleStore) {answer : Nat}
    (asked : (throttle.allowed identity now).1 = .ok answer) :
    let results (inquiries : List Inquiry) :=
      ((unattended now rules throttle).transcript (inquiries.map (Inquiry.event identity))).map
        Entry.result
    results (List.replicate (answer + 1) .check) =
        List.replicate answer (.ok (.decision true)) ++ [.ok (.decision false)] ∧
      (∀ inquiries : List Inquiry,
        ((inquiries.zip (results inquiries)).filter fun entry => entry.1 = .check).map Prod.snd =
          results (inquiries.filter fun inquiry => inquiry = .check)) ∧
      ∀ before after : List Inquiry,
        (results (before ++ .question :: after))[before.length]? =
          some (.ok (.count (answer - (results before).countP isPass))) := by
  intro results
  obtain ⟨named, lefts, leaves, bounded⟩ := Throttle.exists_leaves reachable.sound fits asked
  have least : lefts.foldl min largestCount = answer :=
    Except.ok.inj ((leaves.allowed named).1.symm.trans asked)
  have counted (inquiries : List Inquiry) : results inquiries = countdown answer inquiries :=
    least ▸ result_inquiries named leaves bounded inquiries
  refine ⟨?_, ?_, ?_⟩
  · rw [counted, countdown_checks]
  · intro inquiries
    rw [counted, counted, countdown_filter]
  · intro before after
    rw [counted, counted, countdown_append, countP_countdown, countdown, ← length_countdown answer,
      List.getElem?_append_right (Nat.le_refl _), Nat.sub_self, List.getElem?_cons_zero]
    congr 3
    omega

/-- A throttle over two limits whose first fetch fails. -/
def twoLimits : Throttle :=
  .new (.failingAtFirst [.plain "ip" 5, .plain "login" 7] 1) ⟨1, ⟨5⟩⟩

/-- Two checks, of which the second makes the meters and pays, and a token earned after them. -/
def warmUp : List Event :=
  [.setCost 2, .check .throttle (.ofClient "10.0.0.8" "root"),
    .check .throttle (.ofClient "10.0.0.8" "root"), .advance ⟨5⟩]

/-- A client that may pass twice more is told so, and passes twice. -/
theorem warmUp_predicts :
    let throttle := (run (unattended .origin (.new .never) twoLimits) warmUp).guard.throttle
    let client := Identity.ofClient "10.0.0.8" "root"
    let results (inquiries : List Inquiry) :=
      ((unattended ⟨5⟩ (.new .never) throttle).transcript
        (inquiries.map (Inquiry.event client))).map Entry.result
    (throttle.allowed client ⟨5⟩).1 = .ok 2 ∧
      results [.check, .check, .check] =
        [.ok (.decision true), .ok (.decision true), .ok (.decision false)] ∧
      (results [.check, .question, .check])[1]? =
        some (.ok (.count (2 - (results [.check]).countP isPass))) ∧
      (results [.check]).countP isPass = 1 := by
  intro throttle client results
  have reachable : throttle.Reachable :=
    ⟨unattended .origin (.new .never) twoLimits, warmUp, rfl, rfl⟩
  have fits : ∀ limit ∈ throttle.store.limits, limit.capacity ≤ largestCount := by decide +kernel
  have asked : (throttle.allowed client ⟨5⟩).1 = .ok 2 := by decide +kernel
  obtain ⟨passes, -, counts⟩ := allowed_predicts reachable fits ⟨5⟩ (.new .never) asked
  exact ⟨asked, passes, counts [.check] [.check], by decide +kernel⟩

end Station

end LoginThrottle
