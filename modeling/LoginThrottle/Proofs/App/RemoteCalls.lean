import LoginThrottle.Proofs.App.AtStation
import Mathlib.Data.List.Forall2

/-!
# Remote calls as direct actions

A remote call does to an application what the action does that it asks for, and it tells the
caller how that went.  Only a call that lacks a text does nothing.

## Main Definitions

* `App.Event.directly`: an event with the action of a call in the place of the call
* `App.Answer.Tells`: what a caller from afar learns of a direct answer
* `App.outcomes`: what the events of a run lead to

## Main Statements

* `Station.answerCall_of_missing`, `Station.answerCall_of_complete`: what one call does
* `App.step_directly`: an event and its direct form lead to the same
* `App.remote_refines_direct`: any run can be made without calls

## Design Notes

The place of a call that lacks a text is taken by a step of the clock that takes no time.
-/

namespace LoginThrottle

/-! ### Single calls -/

/-- The texts of an action are those of the message that asks for it. -/
theorem Method.fields_action (method : Method) (text : String → String) :
    (method.action text).fields = method.fieldNames.map fun name => (name, text name) := by
  cases method <;> rfl

/-- The name of the first field, in the order of declaration, that a message leaves empty. -/
def Method.missing? (method : Method) (text : String → String) : Option String :=
  method.fieldNames.find? fun name => text name = ""

theorem Method.emptyField?_action (method : Method) (text : String → String) :
    (method.action text).emptyField? = method.missing? text := by
  rw [Action.emptyField?, Method.fields_action, List.find?_map, Option.map_map]
  have same : (fun field : String × String => field.2 == "") ∘ (fun name => (name, text name)) =
      fun name => decide (text name = "") := by
    funext name
    exact beq_eq_decide _ _
  rw [same]
  exact Option.map_id' 

namespace Station

/-- A call that lacks a text is refused, and the station stays as it was. -/
theorem answerCall_of_missing (station : Station) (fresh : String) {call : Call} {name : String}
    (lacks : call.action.emptyField? = some name) :
    (station.answerCall fresh call).1.result = .error (.emptyField name) ∧
      (station.answerCall fresh call).2 = station := by
  simp [answerCall, answer, lacks]

/-- A call that lacks no text does what its action does, and it carries the result. -/
theorem answerCall_of_complete (station : Station) (fresh : String) {call : Call}
    (complete : call.action.emptyField? = none) :
    (station.answerCall fresh call).1.result = (station.act call.action).1.mapError .failed ∧
      (station.answerCall fresh call).2 = (station.act call.action).2 := by
  simp [answerCall, answer, complete]

end Station

namespace App

/-! ### Events without calls -/

/-- A call as a direct event. -/
def Event.ofAction (action : Action) : Event :=
  match action.emptyField? with
  | none => .act action
  | some _ => .advance .zero

/-- An event with the action of a call in the place of the call.  Where there is no complete
call, no time passes and nothing else happens. -/
def Event.directly : Event → Event
  | .call received => .ofAction received.action
  | .exchange request =>
      match request.call with
      | .ok received => .ofAction received.action
      | .error _ => .advance .zero
  | event => event

/-- What a caller from afar learns, and what the direct event answers. -/
inductive Answer.Tells : Answer → Answer → Prop
  | same (answer : Answer) : Tells answer answer
  /-- The caller learns the result of the action. -/
  | report {report : CallReport} {result : Except Fault Reply}
      (carried : report.result = result.mapError .failed) : Tells (.report report) (.reply result)
  /-- The caller is sent the result of the action. -/
  | exchanged {report : CallReport} {result : Except Fault Reply}
      (carried : report.result = result.mapError .failed) :
      Tells (.exchanged report.reply) (.reply result)
  /-- The caller learns which text is missing. -/
  | reportMissing {report : CallReport} {name : String}
      (lacks : report.result = .error (.emptyField name)) : Tells (.report report) .done
  /-- The caller is sent which text is missing. -/
  | exchangedMissing {report : CallReport} {name : String}
      (lacks : report.result = .error (.emptyField name)) : Tells (.exchanged report.reply) .done
  /-- The caller is sent why a request makes no call. -/
  | turnedAway {request : Exchange} {status : Status} (noCall : request.call = .error status) :
      Tells (.exchanged (.ofStatus status none)) .done

theorem react_idle (app : App) (fresh : String) :
    app.react fresh (.advance .zero) = (.done, app.station) := by
  have still : app.station.now.plus .zero = app.station.now := by
    simp [Instant.plus, Duration.zero]
  simp [react, still]

/-- A call does to the station what its direct form does, and tells the caller so. -/
theorem answerCall_directly (app : App) (fresh other : String) (call : Call) :
    (app.station.answerCall fresh call).2 = (app.react other (.ofAction call.action)).2 ∧
      (Answer.report (app.station.answerCall fresh call).1).Tells
        (app.react other (.ofAction call.action)).1 ∧
      (Answer.exchanged (app.station.answerCall fresh call).1.reply).Tells
        (app.react other (.ofAction call.action)).1 := by
  cases lacks : call.action.emptyField? with
  | some name =>
      obtain ⟨refused, untouched⟩ := app.station.answerCall_of_missing fresh lacks
      rw [Event.ofAction, lacks, react_idle]
      exact ⟨untouched, .reportMissing refused, .exchangedMissing refused⟩
  | none =>
      obtain ⟨carried, moved⟩ := app.station.answerCall_of_complete fresh lacks
      rw [Event.ofAction, lacks]
      exact ⟨moved, .report carried, .exchanged carried⟩

/-- An event does to the station what its direct form does, and its answer tells of it. -/
theorem react_directly (app : App) (fresh other : String) (event : Event) :
    (app.react fresh event).2 = (app.react other event.directly).2 ∧
      (app.react fresh event).1.Tells (app.react other event.directly).1 := by
  cases event with
  | call received =>
      obtain ⟨moved, told, _⟩ := app.answerCall_directly fresh other received
      exact ⟨moved, told⟩
  | exchange request =>
      cases asked : request.call with
      | error status =>
          simp only [Event.directly, asked, react_idle]
          simp only [react, Station.exchange, asked, true_and]
          exact .turnedAway asked
      | ok received =>
          obtain ⟨moved, _, told⟩ := app.answerCall_directly fresh other received
          simp only [Event.directly, asked]
          simp only [react, Station.exchange, asked]
          exact ⟨moved, told⟩
  | _ => exact ⟨rfl, .same _⟩

/-! ### Runs without calls -/

/-- What the events of a run lead to, one after the other. -/
def outcomes (app : App) (fresh : String) : List Event → List Outcome
  | [] => []
  | event :: events =>
      app.step fresh event :: (app.step fresh event).app.outcomes fresh events

/-- Two events lead to the same application and the same sweeps, and the answer to the first one
tells of the answer to the second one. -/
structure Outcome.Mirrors (first second : Outcome) : Prop where
  answer : first.answer.Tells second.answer
  reports : first.reports = second.reports
  app : first.app = second.app

/-- An event and its direct form lead to the same. -/
theorem step_directly (app : App) (fresh other : String) (event : Event) :
    (app.step fresh event).Mirrors (app.step other event.directly) := by
  obtain ⟨moved, told⟩ := app.react_directly fresh other event
  refine ⟨told, ?_, ?_⟩ <;> simp only [step, moved]

/-- A run and its direct form lead to the same, event by event. -/
theorem outcomes_directly (app : App) (fresh other : String) (events : List Event) :
    List.Forall₂ Outcome.Mirrors (app.outcomes fresh events)
      (app.outcomes other (events.map .directly)) := by
  induction events generalizing app with
  | nil => exact .nil
  | cons event rest inductionHypothesis =>
      have mirrors := app.step_directly fresh other event
      refine .cons mirrors ?_
      rw [← mirrors.app]
      exact inductionHypothesis _

theorem run_directly (app : App) (fresh other : String) (events : List Event) :
    app.run fresh events = app.run other (events.map .directly) := by
  induction events generalizing app with
  | nil => rfl
  | cons event rest inductionHypothesis =>
      rw [List.map_cons, run_cons, run_cons, ← (app.step_directly fresh other event).app]
      exact inductionHypothesis _

/-- A call with an empty field is refused with the name of the first one and leaves the
application as it was.  Every other call does what its action does and answers with its value, or
with the code and the text of its fault.  So a run leads to the same as the run without calls,
in which every complete call has given way to its action, whatever the calls brought along. -/
theorem remote_refines_direct (app : App) (fresh : String) :
    (∀ (method : Method) text metadata remote name, method.missing? text = some name →
      let answered := app.station.answerCall fresh ⟨method.action text, metadata, remote⟩
      answered.1.status? = some ⟨.invalidArgument, name ++ " is required"⟩ ∧
        answered.2 = app.station) ∧
    (∀ (method : Method) text metadata remote, method.missing? text = none →
      let answered := app.station.answerCall fresh ⟨method.action text, metadata, remote⟩
      let direct := app.station.act (method.action text)
      answered.2 = direct.2 ∧
        (∀ reply, direct.1 = .ok reply → answered.1.result = .ok reply) ∧
        ∀ fault, direct.1 = .error fault → answered.1.status? =
          match fault with
          | .incorrectIdentity | .invalidAddress _ => some ⟨.invalidArgument, fault.message⟩
          | .ruleNotFound => some ⟨.notFound, fault.message⟩
          | _ => some ⟨.internal, fault.message⟩) ∧
    ∀ other events,
      app.run fresh events = app.run other (events.map .directly) ∧
        List.Forall₂ Outcome.Mirrors (app.outcomes fresh events)
          (app.outcomes other (events.map .directly)) := by
  refine ⟨?_, ?_, fun other events =>
    ⟨app.run_directly fresh other events, app.outcomes_directly fresh other events⟩⟩
  · intro method text metadata remote name missing answered
    have lacks := (method.emptyField?_action text).trans missing
    obtain ⟨refused, untouched⟩ :=
      @Station.answerCall_of_missing app.station fresh ⟨method.action text, metadata, remote⟩ _ lacks
    refine ⟨?_, untouched⟩
    simp only [answered, CallReport.status?, refused]
    rfl
  · intro method text metadata remote missing answered direct
    have complete := (method.emptyField?_action text).trans missing
    obtain ⟨carried, moved⟩ :=
      @Station.answerCall_of_complete app.station fresh ⟨method.action text, metadata, remote⟩
        complete
    refine ⟨moved, ?_, ?_⟩
    · intro reply succeeded
      simp only [answered, carried]
      rw [show (app.station.act (method.action text)).1 = .ok reply from succeeded]
      rfl
    · intro fault failed
      simp only [answered, CallReport.status?, carried]
      rw [show (app.station.act (method.action text)).1 = .error fault from failed]
      cases fault <;> rfl

/-- Somebody who names himself, with a login but without a password. -/
def forgetful (name : String) : String :=
  if name = "ip" then "10.0.0.1" else if name = "login" then "root" else ""

/-- Calls to an application that was described by the default configuration. -/
def mixedCalls : List Event :=
  [.call ⟨Method.limitCheck.action forgetful, ⟨[]⟩, none⟩,
    .call ⟨Method.bucketReset.action forgetful, ⟨[("x-request-id", [55])]⟩, none⟩,
    .act (.add .white "10.0.0.0/8")]

/-- A check without a password is refused, a reset takes place, and the run can be made without
either call. -/
theorem mixedCalls_direct :
    Method.limitCheck.missing? forgetful = some "password" ∧
      ∃ app, ofConfig {} = .ok app ∧
        (app.station.answerCall "" ⟨Method.limitCheck.action forgetful, ⟨[]⟩, none⟩).1.status? =
          some ⟨.invalidArgument, "password is required"⟩ ∧
        app.run "" mixedCalls =
          app.run "" [.advance .zero, .act (.reset "10.0.0.1" "root"),
            .act (.add .white "10.0.0.0/8")] := by
  have missing : Method.limitCheck.missing? forgetful = some "password" := by decide
  obtain ⟨app, made⟩ : ∃ app, ofConfig {} = .ok app := ⟨_, rfl⟩
  obtain ⟨refused, _, runs⟩ := app.remote_refines_direct ""
  exact ⟨missing, app, made, (refused .limitCheck forgetful ⟨[]⟩ none "password" missing).1,
    (runs "" mixedCalls).1⟩

end App

end LoginThrottle
