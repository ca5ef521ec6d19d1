import LoginThrottle.Proofs.Guard.Overlap
import LoginThrottle.Proofs.Throttle.Sweep
import LoginThrottle.Station

/-!
# The log of a station

Everything that happens at a station in routine makes moves of its throttle, and the log
says which deeds there are among them.

## Main Definitions

* `Station.Event.isRoutine`: no bucket is dealt with by its key
* `Station.Event.isForward`: the clock does not run backwards
* `Station.log`: the deeds of an event
* `Station.logWithin`: the deeds of a run between two readings
* `Station.Accounts`: the log says all that happens to the throttle in a run
* `Station.resetsWithin`: how many resets between two readings name a value in a dimension

## Main Statements

* `Station.moves_step`: an event and the sweeps behind it make moves whose deeds are in the log
* `Station.forgiven_logWithin`: the log has the resets of a run, each of them once
-/

namespace LoginThrottle

namespace Station

/-- No bucket is dealt with by its key. -/
def Event.isRoutine : Event → Bool
  | .evict _ | .withdraw _ _ => false
  | _ => true

/-- The clock does not run backwards. -/
def Event.isForward : Event → Bool
  | .rewind _ => false
  | _ => true

/-- The deeds of an event. -/
def log (station : Station) : Event → List Deed
  | .check gate identity => station.guard.checkDeeds gate identity station.now
  | .checkAll gate identities => station.guard.checkAllDeeds gate identities station.now
  | .reset gate identity => Guard.forgivals gate identity
  | .allowed identity => station.guard.throttle.questionDeeds identity
  | .setCost cost => [.priced cost]
  | _ => []

/-- The deeds of a run between two readings, both included. -/
def logWithin (starting ending : Instant) (station : Station) : List Event → List Deed
  | [] => []
  | event :: events =>
      (if starting ≤ station.now ∧ station.now ≤ ending then station.log event else []) ++
        (station.step event).station.logWithin starting ending events

/-- The log accounts for a run: whatever happens to the throttle is made of moves whose deeds
are in the log. -/
def Accounts (station : Station) : List Event → Prop
  | [] => True
  | event :: events =>
      Throttle.Moves (station.step event).station.now station.guard.throttle (station.log event)
          (station.step event).station.guard.throttle ∧
        (station.step event).station.Accounts events

/-- Whether an event is a reset that names a value in a dimension. -/
def Event.resets (dimension value : String) : Event → Bool
  | .reset .throttle identity | .reset .login identity => identity.get? dimension == some value
  | _ => false

/-- How many resets between two readings, both included, name a value in a dimension. -/
def resetsWithin (starting ending : Instant) (dimension value : String) (station : Station) :
    List Event → Nat
  | [] => 0
  | event :: events =>
      (if starting ≤ station.now ∧ station.now ≤ ending ∧ event.resets dimension value
        then 1 else 0) +
        (station.step event).station.resetsWithin starting ending dimension value events

/-! ### The clock -/

theorem now_step (station : Station) (event : Event) :
    (station.step event).station.now = (station.react event).2.now := rfl

/-- Only events of the clock move it, and they have no deeds. -/
theorem now_react (station : Station) (event : Event) :
    (station.react event).2.now = station.now ∨ station.log event = [] := by
  cases event with
  | advance duration => exact .inr rfl
  | rewind duration => exact .inr rfl
  | evict key => exact .inr rfl
  | withdraw key cost => exact .inr rfl
  | _ => exact .inl rfl

theorem le_now_react (station : Station) {event : Event} (forward : event.isForward = true) :
    station.now ≤ (station.react event).2.now := by
  cases event with
  | advance duration =>
      simp only [react, Instant.plus, Instant.le_def]
      omega
  | rewind duration => cases forward
  | evict key =>
      simp only [react]
      split <;> exact Int.le_refl _
  | withdraw key cost =>
      simp only [react]
      split <;> exact Int.le_refl _
  | _ => exact Int.le_refl _

/-! ### Events as moves -/

/-- An event makes moves whose deeds are in the log. -/
theorem moves_react {station : Station} (sound : station.guard.throttle.Sound)
    (named : station.guard.throttle.Named) {event : Event} (routine : event.isRoutine = true) :
    Throttle.Moves (station.react event).2.now station.guard.throttle (station.log event)
      (station.react event).2.guard.throttle := by
  cases event with
  | check gate identity => exact station.guard.moves_check gate identity station.now
  | reset gate identity => exact station.guard.moves_reset gate identity station.now
  | allowed identity => exact station.guard.throttle.moves_allowed identity station.now
  | setCost cost => exact (Throttle.Move.price station.guard.throttle cost).alone
  | sweep ttl failures => exact Throttle.moves_sweep sound named ttl station.now failures
  | checkAll gate identities => exact station.guard.moves_checkAll gate identities station.now
  | evict key => cases routine
  | withdraw key cost => cases routine
  | _ => exact .none _

/-- An event and the sweeps behind it make moves whose deeds are in the log. -/
theorem moves_step {station : Station} (sound : station.guard.throttle.Sound)
    (named : station.guard.throttle.Named) {event : Event} (routine : event.isRoutine = true) :
    Throttle.Moves (station.step event).station.now station.guard.throttle (station.log event)
      (station.step event).station.guard.throttle := by
  have reacted := moves_react sound named routine
  have swept := (station.react event).2.watch.moves_runDue (reacted.sound sound)
    (reacted.named named) (station.react event).2.now
  have moves := reacted.trans swept
  rwa [List.append_nil] at moves

/-! ### Resets in the log -/

theorem forgiven_log (station : Station) (event : Event) (dimension value : String) :
    forgiven dimension value (station.log event) =
      if event.resets dimension value then 1 else 0 := by
  cases event with
  | check gate identity =>
      cases gate with
      | throttle => exact Throttle.forgiven_checkDeeds _ _ _ _ _
      | login =>
          simp only [log, Guard.checkDeeds]
          split
          · exact Throttle.forgiven_checkDeeds _ _ _ _ _
          · rfl
      | list kind => rfl
  | checkAll gate identities => exact Guard.forgiven_checkAllDeeds _ _ _ _ _ _
  | reset gate identity =>
      cases gate with
      | list kind => rfl
      | _ => simp [log, Guard.forgivals, Throttle.forgiven_forgivals, Event.resets]
  | allowed identity =>
      simp only [log, Throttle.questionDeeds]
      split
      · rfl
      · exact Throttle.forgiven_openings dimension value _ _
  | _ => rfl

/-- The log has the resets of a run, each of them once. -/
theorem forgiven_logWithin (starting ending : Instant) (dimension value : String)
    (station : Station) (events : List Event) :
    forgiven dimension value (station.logWithin starting ending events) =
      station.resetsWithin starting ending dimension value events := by
  induction events generalizing station with
  | nil => rfl
  | cons event rest inductionHypothesis =>
      rw [logWithin, resetsWithin, forgiven_append, inductionHypothesis]
      congr 1
      by_cases inside : starting ≤ station.now ∧ station.now ≤ ending
      · rw [if_pos inside, forgiven_log]
        simp [inside]
      · rw [if_neg inside, if_neg fun all => inside ⟨all.1, all.2.1⟩]
        rfl

end Station

end LoginThrottle
