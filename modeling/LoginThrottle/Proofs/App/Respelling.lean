import LoginThrottle.Proofs.App.Attempts
import LoginThrottle.Proofs.Guard.Spelling
import LoginThrottle.Proofs.Station.View
import Mathlib.Data.List.Forall2

/-!
# Addresses in another spelling

The lists know an address in every spelling, but the buckets of addresses are those of texts.  So
a client that changes its spelling within a run is screened as before and metered anew.  If the
spellings are exchanged throughout, nobody notices.

## Main Definitions

* `Action.Respelled`, `App.Event.Respelled`: the same, with the address in another spelling
* `App.trail`: what a run is answered, and which checks the throttle has no part in
* `View.respelling`: all buckets, those of addresses under another spelling

## Main Statements

* `App.screening_respelled`: a change of spelling leaves what the lists decide
* `App.trail_respelled`: a change of spelling that keeps texts apart is not noticed at all
-/

namespace LoginThrottle

/-! ### What is respelled -/

/-- The same action, with the address in another spelling. -/
inductive Action.Respelled (alike : String → String → Prop) : Action → Action → Prop
  | check {ip other : String} (same : alike ip other) (login password : String) :
      Respelled alike (.check ip login password) (.check other login password)
  | reset {ip other : String} (same : alike ip other) (login : String) :
      Respelled alike (.reset ip login) (.reset other login)
  | add (list : ListKind) (text : String) : Respelled alike (.add list text) (.add list text)
  | remove (list : ListKind) (text : String) :
      Respelled alike (.remove list text) (.remove list text)

namespace App

/-- Nobody asks for an action. -/
inductive Event.Quiet : Event → Prop
  | advance (duration : Duration) : Quiet (.advance duration)
  | rewind (duration : Duration) : Quiet (.rewind duration)
  | startSweeping : Quiet .startSweeping
  | signal (said : Signal) : Quiet (.signal said)
  | exchange {request : Exchange} {status : Status} (refused : request.call = .error status) :
      Quiet (.exchange request)

/-- The same event, with the address in another spelling. -/
inductive Event.Respelled (alike : String → String → Prop) : Event → Event → Prop
  | same {event : Event} (quiet : event.Quiet) : Respelled alike event event
  | act {first second : Action} (actions : first.Respelled alike second) :
      Respelled alike (.act first) (.act second)
  | call {first second : Action} (actions : first.Respelled alike second) (metadata : Metadata)
      (remote : Option SocketAddress) :
      Respelled alike (.call ⟨first, metadata, remote⟩) (.call ⟨second, metadata, remote⟩)
  | exchange {one other : Exchange} {first second : Action} {metadata : Metadata}
      {remote : Option SocketAddress} (actions : first.Respelled alike second)
      (asks : one.call = .ok ⟨first, metadata, remote⟩)
      (asksToo : other.call = .ok ⟨second, metadata, remote⟩) :
      Respelled alike (.exchange one) (.exchange other)

/-- What an event of a run is answered, and whether it is a check that the throttle has no part
in. -/
structure Mark where
  screened : Bool
  answer : Answer

/-- The marks of the events of a run. -/
def trail (app : App) (fresh : String) : List Event → List Mark
  | [] => []
  | event :: events =>
      ⟨app.station.isScreened (event.atStation app.sweeping), (app.step fresh event).answer⟩ ::
        (app.step fresh event).app.trail fresh events

end App

/-! ### Respelled events at stations -/

namespace Station

/-- Nobody is checked or forgiven, and no deletion is going to fail. -/
inductive Event.Quiet : Event → Prop
  | advance (duration : Duration) : Quiet (.advance duration)
  | rewind (duration : Duration) : Quiet (.rewind duration)
  | startHousekeeper (ttl interval : Duration) : Quiet (.startHousekeeper ttl interval 0)
  | signal (said : Signal) : Quiet (.signal said)
  | rules (operation : RuleStore.Operation) : Quiet (.rules operation)
  | describe : Quiet .describe

/-- The same event of a service, with the address in another spelling. -/
inductive Event.Respelled (alike : String → String → Prop) : Event → Event → Prop
  | same {event : Event} (quiet : event.Quiet) : Respelled alike event event
  | check {ip other : String} (same : alike ip other) (login password : String) :
      Respelled alike (.check .login (.ofAttempt ip login password))
        (.check .login (.ofAttempt other login password))
  | reset {ip other : String} (same : alike ip other) (login : String) :
      Respelled alike (.reset .login (.ofClient ip login)) (.reset .login (.ofClient other login))

end Station

variable {alike : String → String → Prop}

theorem Station.Event.Respelled.mono {first second : Station.Event} {weaker : String → String → Prop}
    (respelled : first.Respelled alike second)
    (implies : ∀ {ip other : String}, alike ip other → weaker ip other) :
    first.Respelled weaker second := by
  cases respelled with
  | same quiet => exact .same quiet
  | check same login password => exact .check (implies same) login password
  | reset same login => exact .reset (implies same) login

theorem Action.Respelled.event {first second : Action} (respelled : first.Respelled alike second) :
    Station.Event.Respelled alike first.event second.event := by
  cases respelled with
  | check same login password => exact .check same login password
  | reset same login => exact .reset same login
  | add list text => exact .same (.rules _)
  | remove list text => exact .same (.rules _)

theorem Action.isSummary_event (action : Action) : action.event.isSummary = false := by
  cases action <;> rfl

section Spelled

variable (spelled : ∀ {ip other : String}, alike ip other → SpellAlike ip other)

include spelled

/-- No text becomes empty, and none that is empty becomes another. -/
theorem Action.Respelled.emptyField?_eq {first second : Action}
    (respelled : first.Respelled alike second) : second.emptyField? = first.emptyField? := by
  have empty {ip other : String} (same : alike ip other) : (other == "") = (ip == "") := by
    rw [Bool.eq_iff_iff, beq_iff_eq, beq_iff_eq]
    exact (spelled same).eq_empty_iff
  cases respelled with
  | check same login password =>
      simp only [emptyField?, fields, List.find?_cons, empty same]
      split <;> rfl
  | reset same login =>
      simp only [emptyField?, fields, List.find?_cons, empty same]
      split <;> rfl
  | add list text => rfl
  | remove list text => rfl

theorem Action.Respelled.remoteEvent {first second : Action}
    (respelled : first.Respelled alike second) :
    Station.Event.Respelled alike first.remoteEvent second.remoteEvent := by
  rw [Action.remoteEvent, Action.remoteEvent, respelled.emptyField?_eq spelled]
  split
  · exact respelled.event
  · exact .same .describe

namespace App

theorem Event.Respelled.atStation {first second : Event} (respelled : first.Respelled alike second)
    (sweeping : SweepConfig) :
    Station.Event.Respelled alike (first.atStation sweeping) (second.atStation sweeping) := by
  cases respelled with
  | act actions => exact actions.event
  | call actions metadata remote => exact actions.remoteEvent spelled
  | exchange actions asks asksToo =>
      simp only [Event.atStation, asks, asksToo]
      exact actions.remoteEvent spelled
  | same quiet =>
      cases quiet with
      | advance duration => exact .same (.advance duration)
      | rewind duration => exact .same (.rewind duration)
      | signal said => exact .same (.signal said)
      | startSweeping =>
          simp only [Event.atStation]
          split
          · exact .same (.startHousekeeper _ _)
          · exact .same .describe
      | exchange refused =>
          simp only [Event.atStation, refused]
          exact .same .describe

/-! ### Answers -/

/-- Actions that have one result at the stations are answered alike from afar. -/
theorem fst_answer_eq {first second : Action} (respelled : first.Respelled alike second)
    {one other : Station}
    (result_eq : first.remoteEvent.isSummary = false →
      (one.react first.remoteEvent).1 = (other.react second.remoteEvent).1) :
    (one.answer first).1 = (other.answer second).1 := by
  have same := respelled.emptyField?_eq spelled
  rw [Action.remoteEvent, Action.remoteEvent, same] at result_eq
  rw [Station.answer, Station.answer, same]
  cases empty : first.emptyField? with
  | some name => rfl
  | none =>
      rw [empty] at result_eq
      have results := result_eq first.isSummary_event
      simp only [Station.act, results]

theorem fst_answerCall_eq {first second : Action} (respelled : first.Respelled alike second)
    {one other : Station} (fresh : String) (metadata : Metadata) (remote : Option SocketAddress)
    (result_eq : first.remoteEvent.isSummary = false →
      (one.react first.remoteEvent).1 = (other.react second.remoteEvent).1) :
    (one.answerCall fresh ⟨first, metadata, remote⟩).1 =
      (other.answerCall fresh ⟨second, metadata, remote⟩).1 := by
  have method_eq : second.method = first.method := by
    cases respelled <;> rfl
  have answered := fst_answer_eq spelled respelled result_eq
  simp only [Station.answerCall, answered, method_eq]
  rfl

/-- Events that have one result at the stations have one answer. -/
theorem Event.Respelled.fst_react {first second : Event} (respelled : first.Respelled alike second)
    (one other : App) (fresh : String) (sweeping_eq : other.sweeping = one.sweeping)
    (result_eq : (first.atStation one.sweeping).isSummary = false →
      (one.station.react (first.atStation one.sweeping)).1 =
        (other.station.react (second.atStation other.sweeping)).1) :
    (one.react fresh first).1 = (other.react fresh second).1 := by
  cases respelled with
  | @act action renamed actions =>
      have results := result_eq action.isSummary_event
      simp only [Event.atStation] at results
      simp only [react, Station.act, results]
  | call actions metadata remote =>
      have answered := fst_answerCall_eq spelled actions fresh metadata remote result_eq
      simp only [react, answered]
  | @exchange request renamed action renamedAction metadata remote actions asks asksToo =>
      simp only [Event.atStation, asks, asksToo] at result_eq
      have answered := fst_answerCall_eq spelled actions fresh metadata remote result_eq
      simp only [react, Station.exchange, asks, asksToo, answered]
  | same quiet =>
      cases quiet with
      | advance duration => rfl
      | rewind duration => rfl
      | startSweeping => simp only [react, sweeping_eq]
      | signal said =>
          have results := result_eq rfl
          simp only [Event.atStation, Station.react, Except.ok.injEq,
            Station.Answer.stop.injEq] at results
          simp only [react, results]
      | exchange refused => simp only [react, Station.exchange, refused]

end App

end Spelled

/-! ### What the lists decide -/

namespace Guard

/-- Over the same rules the lists say the same of both spellings, and they leave the same rules
behind. -/
theorem exists_screen {first second : Guard} (rules_eq : second.rules = first.rules)
    {ip other : String} (same : SpellAlike ip other) (login password : String) :
    ∃ result rules,
      first.screen (.ofAttempt ip login password) = (result, { first with rules := rules }) ∧
      second.screen (.ofAttempt other login password) =
        (result, { second with rules := rules }) := by
  obtain ⟨rules, throttle⟩ := second
  obtain rfl : rules = first.rules := rules_eq
  have asked := first.screen_eq_of_throttle throttle (.ofAttempt ip login password)
  have spared := first.throttle_screen (.ofAttempt ip login password)
  rw [screen_eq_of_spellAlike _ same, asked]
  refine ⟨_, (first.screen (.ofAttempt ip login password)).2.rules, ?_, rfl⟩
  rw [← spared]

end Guard

namespace Station

variable {one other : Station} {first second : Event}

/-- The rules are the same behind both events. -/
theorem Event.Respelled.rules_step (respelled : first.Respelled SpellAlike second)
    (rules_eq : other.guard.rules = one.guard.rules) :
    (other.step second).station.guard.rules = (one.step first).station.guard.rules := by
  show (other.react second).2.guard.rules = (one.react first).2.guard.rules
  cases respelled with
  | check same login password =>
      obtain ⟨result, rules, screened, screenedToo⟩ :=
        Guard.exists_screen rules_eq same login password
      simp only [react, Guard.check, Guard.decide, screened, screenedToo]
      rcases result with fault | _ | _ | _ <;> rfl
  | reset same login => exact rules_eq
  | same quiet =>
      cases quiet with
      | rules operation => simp only [react, rules_eq]
      | _ => exact rules_eq

/-- The throttle has a part in both events or in neither. -/
theorem Event.Respelled.isScreened_eq (respelled : first.Respelled SpellAlike second)
    (rules_eq : other.guard.rules = one.guard.rules) :
    other.isScreened second = one.isScreened first := by
  cases respelled with
  | check same login password =>
      obtain ⟨result, rules, screened, screenedToo⟩ :=
        Guard.exists_screen rules_eq same login password
      simp only [isScreened, screened, screenedToo]
  | reset same login => rfl
  | same quiet => cases quiet <;> rfl

/-- A check that the throttle has no part in has the same result in both spellings. -/
theorem Event.Respelled.fst_react_of_isScreened (respelled : first.Respelled SpellAlike second)
    (rules_eq : other.guard.rules = one.guard.rules) (untouched : one.isScreened first = true) :
    (one.react first).1 = (other.react second).1 := by
  cases respelled with
  | check same login password =>
      obtain ⟨result, rules, screened, screenedToo⟩ :=
        Guard.exists_screen rules_eq same login password
      simp only [isScreened, screened] at untouched
      simp only [react, Guard.check, Guard.decide, screened, screenedToo]
      rcases result with fault | _ | _ | _
      · rfl
      · rfl
      · rfl
      · cases untouched
  | reset same login => cases untouched
  | same quiet => cases quiet <;> cases untouched

end Station

namespace App

variable {one other : App} {events others : List Event}

/-- A change of spelling leaves what the lists decide. -/
theorem screening_respelled (rules_eq : other.station.guard.rules = one.station.guard.rules)
    (sweeping_eq : other.sweeping = one.sweeping)
    (respelled : List.Forall₂ (Event.Respelled SpellAlike) events others) (fresh : String) :
    List.Forall₂ (fun mark renamed => mark.screened = renamed.screened ∧
        (mark.screened = true → mark.answer = renamed.answer))
      (one.trail fresh events) (other.trail fresh others) := by
  induction respelled generalizing one other with
  | nil => exact .nil
  | @cons event renamed events others here later inductionHypothesis =>
      have atStation := here.atStation id one.sweeping
      rw [trail, trail, sweeping_eq]
      refine .cons ⟨(atStation.isScreened_eq rules_eq).symm, fun untouched => ?_⟩ ?_
      · refine here.fst_react id one other fresh sweeping_eq fun _ => ?_
        rw [sweeping_eq]
        exact atStation.fst_react_of_isScreened rules_eq untouched
      · refine inductionHypothesis ?_ sweeping_eq
        rw [station_step, station_step, sweeping_eq]
        exact atStation.rules_step rules_eq

end App

/-! ### Spellings that are exchanged throughout -/

/-- All buckets, but those of the given texts as addresses under another spelling. -/
def View.respelling (texts : List String) (respell : String → String)
    (distinct : ∀ text ∈ texts, ∀ other ∈ texts, respell text = respell other → text = other) :
    View where
  sees dimension value := dimension ≠ Dimension.ip.name || texts.contains value
  rename dimension value := if dimension = Dimension.ip.name then respell value else value
  rename_inj := by
    intro dimension value other seen seenToo same
    by_cases addressed : dimension = Dimension.ip.name
    · simp only [addressed, if_true] at same
      simp only [addressed, ne_eq, not_true_eq_false, decide_false, Bool.false_or,
        List.contains_iff_mem] at seen seenToo
      exact distinct value seen other seenToo same
    · simpa only [addressed, if_false] using same

section Throughout

variable {texts : List String} {respell : String → String}
  (distinct : ∀ text ∈ texts, ∀ other ∈ texts, respell text = respell other → text = other)

theorem View.rename_ip (text : String) :
    (respelling texts respell distinct).rename Dimension.ip.name text = respell text := by
  simp only [respelling, if_true]

theorem View.rename_login (text : String) :
    (respelling texts respell distinct).rename Dimension.login.name text = text := by
  have other : ¬ Dimension.login.name = Dimension.ip.name := by decide
  simp only [respelling, other, if_false]

theorem View.rename_password (text : String) :
    (respelling texts respell distinct).rename Dimension.password.name text = text := by
  have other : ¬ Dimension.password.name = Dimension.ip.name := by decide
  simp only [respelling, other, if_false]

theorem View.rename_ofAttempt (ip login password : String) :
    (Identity.ofAttempt ip login password).rename (respelling texts respell distinct).rename =
      .ofAttempt (respell ip) login password := by
  refine Identity.eq_of_pairs_eq ?_
  simp only [Identity.rename, Identity.pairs_ofAttempt, List.map_cons, List.map_nil, rename_ip,
    rename_login, rename_password]

theorem View.rename_ofClient (ip login : String) :
    (Identity.ofClient ip login).rename (respelling texts respell distinct).rename =
      .ofClient (respell ip) login := by
  refine Identity.eq_of_pairs_eq ?_
  simp only [Identity.rename, Identity.pairs_ofClient, List.map_cons, List.map_nil, rename_ip,
    rename_login]

variable (faithful : ∀ text ∈ texts, SpellAlike text (respell text))

include faithful

/-- A respelled event is the same event with another value in view. -/
theorem Station.Event.Respelled.visible {first second : Station.Event}
    (respelled : first.Respelled (fun ip other => ip ∈ texts ∧ other = respell ip) second) :
    second = first.rename (View.respelling texts respell distinct).rename ∧
      first.Visible (View.respelling texts respell distinct) := by
  cases respelled with
  | @check ip other same login password =>
      obtain ⟨known, rfl⟩ := same
      rw [Event.rename, View.rename_ofAttempt]
      refine ⟨rfl, ?_, ?_⟩
      · intro pair member
        rw [Identity.pairs_ofAttempt] at member
        simp only [List.mem_cons, List.not_mem_nil, or_false] at member
        rcases member with rfl | rfl | rfl
        · simp [View.respelling, known]
        · rfl
        · rfl
      · intro guard
        rw [View.rename_ofAttempt]
        exact guard.screen_eq_of_spellAlike (faithful ip known) login password
  | @reset ip other same login =>
      obtain ⟨known, rfl⟩ := same
      rw [Event.rename, View.rename_ofClient]
      refine ⟨rfl, ?_⟩
      intro pair member
      rw [Identity.pairs_ofClient] at member
      simp only [List.mem_cons, List.not_mem_nil, or_false] at member
      rcases member with rfl | rfl
      · simp [View.respelling, known]
      · rfl
  | same quiet =>
      cases quiet with
      | startHousekeeper ttl interval => exact ⟨rfl, rfl⟩
      | _ => exact ⟨rfl, trivial⟩

end Throughout

/-! ### Dimensions with proper names -/

namespace Station

/-- What a service does leaves dimensions with proper names only. -/
theorem Event.Respelled.servesNamed_react {station : Station} {first second : Event}
    (respelled : first.Respelled alike second) (named : station.guard.throttle.ServesNamed) :
    (station.react first).2.guard.throttle.ServesNamed := by
  cases respelled with
  | @check ip other same login password =>
      have proper : ∀ dimension ∈ Dimension.all.map Dimension.name,
          isDimensionName dimension = true := by decide
      have asked := station.guard.throttle_screen (.ofAttempt ip login password)
      simp only [react, Guard.check, Guard.decide]
      generalize station.guard.screen (.ofAttempt ip login password) = screened at asked
      obtain ⟨result, after⟩ := screened
      have namedAfter : after.throttle.ServesNamed := asked ▸ named
      rcases result with fault | _ | _ | _
      · exact namedAfter
      · exact namedAfter
      · exact namedAfter
      · show (after.throttle.satisfy _ station.now).2.ServesNamed
        rw [Throttle.satisfy_eq_visit]
        refine Throttle.servesNamed_visit namedAfter ?_ ()
        rw [Identity.dimensions_ofAttempt]
        exact proper
  | reset same login =>
      show (station.guard.throttle.reset _ station.now).2.ServesNamed
      cases made : station.guard.throttle.meters with
      | none =>
          rw [Throttle.reset, made]
          split <;> exact named
      | some meters =>
          have made : station.guard.throttle.meters ≠ none := made ▸ Option.some_ne_none meters
          rw [Throttle.reset_eq_visit made]
          exact Throttle.servesNamed_of_bare_eq (Throttle.bare_visit made () _) named
  | same quiet => cases quiet <;> exact named

/-- So do the sweeps behind it. -/
theorem servesNamed_keepHouse {station : Station} (named : station.guard.throttle.ServesNamed) :
    station.keepHouse.2.guard.throttle.ServesNamed :=
  Throttle.runDue_preserves Throttle.ServesNamed Throttle.servesNamed_of_evict station.watch
    station.now named

end Station

namespace App

variable {one other : App} {events others : List Event} {texts : List String}
  {respell : String → String}

/-- A change of spelling that keeps texts apart is not noticed at all. -/
theorem trail_respelled
    (distinct : ∀ text ∈ texts, ∀ other ∈ texts, respell text = respell other → text = other)
    (faithful : ∀ text ∈ texts, SpellAlike text (respell text))
    (shows : Station.Shows (View.respelling texts respell distinct) one.station other.station)
    (named : one.station.guard.throttle.ServesNamed) (sweeping_eq : other.sweeping = one.sweeping)
    (respelled : List.Forall₂
      (Event.Respelled fun text renamed => text ∈ texts ∧ renamed = respell text) events others)
    (fresh : String) : other.trail fresh others = one.trail fresh events := by
  induction respelled generalizing one other with
  | nil => rfl
  | @cons event renamed events others here later inductionHypothesis =>
      have spelled {text renamed : String} (same : text ∈ texts ∧ renamed = respell text) :
          SpellAlike text renamed := same.2 ▸ faithful text same.1
      have atStation := here.atStation spelled one.sweeping
      obtain ⟨renamed_eq, visible⟩ := atStation.visible distinct faithful
      have namedAfter := atStation.servesNamed_react named
      obtain ⟨answer, showsLater⟩ := shows.step named namedAfter visible
      rw [← renamed_eq] at answer showsLater
      have screened := (atStation.mono spelled).isScreened_eq shows.guard.rules_eq
      have answered := here.fst_react spelled one other fresh sweeping_eq
        (by rw [sweeping_eq]; exact answer)
      rw [trail, trail, sweeping_eq, screened]
      refine congrArg₂ List.cons (congrArg _ answered.symm) ?_
      refine inductionHypothesis ?_ ?_ sweeping_eq
      · rw [station_step, station_step, sweeping_eq]
        exact showsLater
      · rw [station_step]
        exact Station.servesNamed_keepHouse namedAfter

/-- An application begins without a housekeeper. -/
theorem Begun.absent {app : App} (begun : app.Begun) : app.station.watch = .absent := by
  cases begun with
  | ofStores limits outage limiter => rfl
  | ofConfig made => exact watch_ofConfig made

/-- In any run of an application addresses may be spelled in other ways.  Then the same checks are
settled without the throttle, with the same answers.  If moreover each text gives way to one text
throughout, and no two texts to the same one, then nothing at all is answered in another way. -/
theorem answers_respelled {app : App} (begun : app.Begun) (fresh : String) :
    (∀ events others, List.Forall₂ (Event.Respelled SpellAlike) events others →
      List.Forall₂ (fun mark renamed => mark.screened = renamed.screened ∧
          (mark.screened = true → mark.answer = renamed.answer))
        (app.trail fresh events) (app.trail fresh others)) ∧
    ∀ (texts : List String) (respell : String → String),
      (∀ text ∈ texts, SpellAlike text (respell text)) →
      (∀ text ∈ texts, ∀ other ∈ texts, respell text = respell other → text = other) →
      ∀ events others, List.Forall₂
          (Event.Respelled fun text renamed => text ∈ texts ∧ renamed = respell text)
          events others →
        app.trail fresh others = app.trail fresh events := by
  refine ⟨fun events others respelled => screening_respelled rfl rfl respelled fresh, ?_⟩
  intro texts respell faithful distinct events others respelled
  have unmade := begun.unmade
  have shows : Station.Shows (View.respelling texts respell distinct) app.station app.station := by
    refine ⟨rfl, rfl, ?_, rfl, rfl, fun _ => ?_⟩
    · rw [begun.absent]
      trivial
    · rw [Throttle.bucketAt?_of_none unmade, Throttle.bucketAt?_of_none unmade]
  have named : app.station.guard.throttle.ServesNamed := by
    intro dimension member
    rw [Throttle.mem_dimensions_iff, Throttle.capacityAt?,
      Throttle.currentMeters_of_none unmade] at member
    exact absurd rfl member
  exact trail_respelled distinct faithful shows named rfl respelled fresh

/-- One attempt for each address. -/
def narrow : Config where
  limits := [.plain Dimension.ip.name 1, .plain Dimension.login.name 10,
    .plain Dimension.password.name 10]

/-- A client with its attempts, a new start and another attempt. -/
def visits (ip : String) : List Event :=
  [.act (.check ip "root" "pw"), .act (.check ip "toor" "pw"), .act (.reset ip "root"),
    .advance ⟨7⟩, .act (.check ip "root" "word")]

/-- The address may be spelled in its mapped form throughout. -/
theorem visits_respelled :
    SpellAlike "10.0.0.1" "::ffff:10.0.0.1" ∧ ∃ app, ofConfig narrow = .ok app ∧
      app.trail "" (visits "::ffff:10.0.0.1") = app.trail "" (visits "10.0.0.1") := by
  have alike : SpellAlike "10.0.0.1" "::ffff:10.0.0.1" := by decide
  obtain ⟨app, made⟩ : ∃ app, ofConfig narrow = .ok app := ⟨_, rfl⟩
  refine ⟨alike, app, made, ?_⟩
  refine (answers_respelled (.ofConfig made) "").2 ["10.0.0.1"] (fun _ => "::ffff:10.0.0.1") ?_ ?_
    _ _ ?_
  · intro text member
    rw [List.mem_singleton.1 member]
    exact alike
  · intro text member other memberToo _
    rw [List.mem_singleton.1 member, List.mem_singleton.1 memberToo]
  · have known : "10.0.0.1" ∈ ["10.0.0.1"] ∧ "::ffff:10.0.0.1" = "::ffff:10.0.0.1" :=
      ⟨List.mem_cons_self, rfl⟩
    exact .cons (.act (.check known _ _)) (.cons (.act (.check known _ _))
      (.cons (.act (.reset known _)) (.cons (.same (.advance _))
        (.cons (.act (.check known _ _)) .nil))))

/-- A client that has used up the attempts of its address gets another one if it spells the
address in another way. -/
theorem mapped_address_passes :
    narrow.validate = .ok narrow ∧ SpellAlike "10.0.0.1" "::ffff:10.0.0.1" ∧
      ∃ app, ofConfig narrow = .ok app ∧
        let spent := (app.run "" [.act (.check "10.0.0.1" "root" "pw")]).station
        (spent.act (.check "10.0.0.1" "toor" "word")).1 = .ok (.decision false) ∧
        (spent.act (.check "::ffff:10.0.0.1" "toor" "word")).1 = .ok (.decision true) :=
  ⟨rfl, by decide, _, rfl, rfl, rfl⟩

end App

end LoginThrottle
