import LoginThrottle.Action
import LoginThrottle.Proofs.Guard.Decision
import LoginThrottle.Proofs.Station.Log
import LoginThrottle.Proofs.Throttle.Attempt

/-!
# Stations in service

Clients of a service come to the throttle with complete login attempts only, and they cannot
change what an attempt costs.  So its meters are those of the dimensions of an attempt.

## Main Definitions

* `Station.Event.isService`: what clients and administrators of a service bring about
* `Station.Serving`: what such events preserve over stores that do not fail

## Main Statements

* `Station.Serving.step`: an event leaves a station in service
* `Station.Serving.check_decides`: a check comes to a decision if the limits allow for it
* `Station.Serving.check_fails`: a first check over empty lists ends in a fault if they do not
-/

namespace LoginThrottle

/-! ### What a guard leaves behind -/

namespace Guard

theorem outage_checkList (guard : Guard) (kind : ListKind) (identity : Identity) :
    (guard.checkList kind identity).2.rules.outage = guard.rules.outage := by
  cases named : identity.get? Dimension.ip.name with
  | none =>
      rw [checkList, named]
  | some text =>
      rw [checkList_eq named]
      exact RuleStore.outage_isListed guard.rules text kind

theorem outage_screen (guard : Guard) (identity : Identity) :
    (guard.screen identity).2.rules.outage = guard.rules.outage :=
  screen_preserves (fun other => other.rules.outage = guard.rules.outage)
    (fun other kind same => (other.outage_checkList kind identity).trans same) rfl

/-- A check does not change when calls of the rule store fail. -/
theorem outage_check (guard : Guard) (gate : Gate) (identity : Identity) (now : Instant) :
    (guard.check gate identity now).2.rules.outage = guard.rules.outage := by
  cases gate with
  | throttle => rfl
  | list kind => exact guard.outage_checkList kind identity
  | login =>
      have screened := guard.outage_screen identity
      rw [check, decide]
      cases answered : guard.screen identity with
      | mk result after =>
          rw [answered] at screened
          rcases result with fault | _ | _ | _ <;> exact screened

/-- The throttle is left to decide about complete attempts only. -/
theorem namesAttempt_of_undecided {guard : Guard} {identity : Identity}
    (undecided : (guard.screen identity).1 = .ok .undecided) : identity.NamesAttempt := by
  rw [← Identity.isAttempt_iff]
  unfold screen at undecided
  split at undecided
  · next attempt => exact attempt
  · cases undecided

end Guard

/-! ### The deeds of a service -/

theorem Throttle.mem_paymentsOf {now : Instant} {pairs : List (String × String)}
    {meters : Keyed Meter} {deed : Deed} (member : deed ∈ paymentsOf now pairs meters) :
    ∃ dimension value amount, deed = .withdrew dimension value amount := by
  induction pairs generalizing meters with
  | nil => cases member
  | cons pair rest inductionHypothesis =>
      obtain ⟨dimension, value⟩ := pair
      rw [paymentsOf] at member
      split at member
      · cases member
      · next meter served =>
          simp only at member
          split at member
          · rcases List.mem_cons.1 member with rfl | later
            · exact ⟨dimension, value, meter.cost, rfl⟩
            · exact inductionHypothesis later
          · cases member

theorem Throttle.mem_checkDeeds {throttle : Throttle} {identity : Identity} {now : Instant}
    {deed : Deed} (member : deed ∈ throttle.checkDeeds identity now) :
    deed = .opened identity.dimensions ∨
      ∃ dimension value amount, deed = .withdrew dimension value amount := by
  unfold checkDeeds at member
  split at member
  · cases member
  · rcases List.mem_append.1 member with opening | payment
    · exact .inl (mem_openings opening)
    · unfold payments at payment
      split at payment
      · cases payment
      · exact .inr (mem_paymentsOf payment)

namespace Station

/-- What clients and administrators of a service bring about: they come to the throttle
through the lists and one after the other, and they do not change the cost. -/
def Event.isService : Event → Bool
  | .check .throttle _ | .checkAll _ _ | .allowed _ | .setCost _ => false
  | event => event.isRoutine

theorem Event.isRoutine_of_isService {event : Event} (service : event.isService = true) :
    event.isRoutine = true := by
  cases event <;> first | rfl | exact service

/-- Meters are made for complete login attempts only, and nothing gets another cost. -/
theorem mem_log {station : Station} {event : Event} (service : event.isService = true)
    {deed : Deed} (member : deed ∈ station.log event) :
    (∃ identity : Identity, identity.NamesAttempt ∧ deed = .opened identity.dimensions) ∨
      (∃ dimension value amount, deed = .withdrew dimension value amount) ∨
      ∃ dimension value, deed = .forgave dimension value := by
  cases event with
  | check gate identity =>
      cases gate with
      | throttle => cases service
      | list kind => cases member
      | login =>
          simp only [log, Guard.checkDeeds] at member
          split at member
          · next undecided =>
              rcases Throttle.mem_checkDeeds member with opened | withdrew
              · exact .inl ⟨identity, Guard.namesAttempt_of_undecided undecided, opened⟩
              · exact .inr (.inl withdrew)
          · cases member
  | checkAll gate identities => cases service
  | reset gate identity =>
      cases gate with
      | list kind => cases member
      | _ =>
          obtain ⟨pair, _, rfl⟩ := List.mem_map.1 member
          exact .inr (.inr ⟨pair.1, pair.2, rfl⟩)
  | allowed identity => cases service
  | setCost cost => cases service
  | _ => cases member

/-! ### Stations in service -/

/-- A station over stores that do not fail, whose meters, once made, are those of the limited
dimensions of an attempt. -/
structure Serving (limits : List Limit) (cost : Nat) (station : Station) : Prop where
  sound : station.guard.throttle.Sound
  named : station.guard.throttle.Named
  limits_eq : station.guard.throttle.store.limits = limits
  fetches : ∀ fetch, station.guard.throttle.store.outage fetch = false
  cost_eq : station.guard.throttle.cost = cost
  serves : station.guard.throttle.Serves (Dimension.all.map Dimension.name)
  reliable : station.guard.rules.Reliable

variable {limits : List Limit} {cost : Nat} {station : Station}

theorem outage_react (station : Station) {event : Event} (service : event.isService = true) :
    (station.react event).2.guard.rules.outage = station.guard.rules.outage := by
  cases event with
  | check gate identity => exact station.guard.outage_check gate identity station.now
  | checkAll gate identities => cases service
  | reset gate identity =>
      cases gate <;> rfl
  | evict key => cases service
  | withdraw key cost => cases service
  | rules operation => exact RuleStore.outage_serve station.guard.rules operation
  | _ => rfl

/-- An event leaves a station in service. -/
theorem Serving.step (serving : station.Serving limits cost) {event : Event}
    (service : event.isService = true) : (station.step event).station.Serving limits cost := by
  have moves := Station.moves_step serving.sound serving.named
    (Event.isRoutine_of_isService service)
  have opened : ∀ asked, Deed.opened asked ∈ station.log event →
      ∀ dimension ∈ Dimension.all.map Dimension.name, dimension ∈ asked := by
    intro asked member dimension named
    -- Only complete attempts lead to meters, and they name every dimension.
    obtain ⟨identity, complete, same⟩ | ⟨_, _, _, ⟨⟩⟩ | ⟨_, _, ⟨⟩⟩ := mem_log service member
    obtain ⟨attempted, _, rfl⟩ := List.mem_map.1 named
    rw [Deed.opened.inj same]
    exact complete.mem_dimensions attempted
  have unpriced : ∀ price, Deed.priced price ∉ station.log event := by
    intro price member
    obtain ⟨_, _, ⟨⟩⟩ | ⟨_, _, _, ⟨⟩⟩ | ⟨_, _, ⟨⟩⟩ := mem_log service member
  exact {
    sound := moves.sound serving.sound
    named := moves.named serving.named
    limits_eq := moves.limits_eq.trans serving.limits_eq
    fetches := by
      rw [moves.outage_eq]
      exact serving.fetches
    cost_eq := (moves.cost_eq unpriced).trans serving.cost_eq
    serves := moves.serves serving.serves opened
    reliable := (station.outage_react service).trans serving.reliable }

theorem Serving.run (serving : station.Serving limits cost) {events : List Event}
    (service : ∀ event ∈ events, event.isService = true) :
    (station.run events).Serving limits cost := by
  induction events generalizing station with
  | nil => exact serving
  | cons event rest inductionHypothesis =>
      have serviceLater other member := service other (List.mem_cons_of_mem event member)
      rw [run_cons]
      exact inductionHypothesis (serving.step (service event List.mem_cons_self)) serviceLater

/-! ### Checks of a service -/

theorem ip_ne_of_read? {ip : String} {address : IpAddress}
    (spelled : IpAddress.read? ip = some address) : ip ≠ "" := by
  rintro rfl
  cases spelled

/-- What a check answers is what the guard decides about the attempt. -/
theorem fst_act_check (station : Station) (ip login password : String) :
    (station.act (.check ip login password)).1 =
      ((station.guard.decide (.ofAttempt ip login password) station.now).1.map
        Reply.decision) := by
  change ((station.guard.decide (.ofAttempt ip login password) station.now).1.map
    Answer.decision).map Reply.ofAnswer = _
  cases (station.guard.decide (.ofAttempt ip login password) station.now).1 <;> rfl

/-- The address that an attempt comes from. -/
theorem get?_ip_ofAttempt (ip login password : String) :
    (Identity.ofAttempt ip login password).get? Dimension.ip.name = some ip := by
  rw [Identity.get?_eq_some_iff, Identity.pairs_ofAttempt]
  exact List.mem_cons_self

section Checks

variable {ip login password : String} {address : IpAddress}
  (spelled : IpAddress.read? ip = some address) (login_ne : login ≠ "")
  (password_ne : password ≠ "")

include spelled login_ne password_ne

/-- A check comes to a decision if the limits allow for it. -/
theorem Serving.check_decides (serving : station.Serving limits cost)
    (decides : Limit.DecidesAlong limits (max cost 1) (Dimension.all.map Dimension.name)) :
    ∃ passed, (station.act (.check ip login password)).1 = .ok (.decision passed) := by
  have complete := Identity.namesAttempt_ofAttempt (ip_ne_of_read? spelled) login_ne password_ne
  have walk := Identity.dimensions_ofAttempt ip login password
  rw [← walk] at decides
  have nonempty : (Identity.ofAttempt ip login password).dimensions ≠ [] := by
    rw [walk]
    exact List.cons_ne_nil _ _
  have satisfied := Throttle.satisfy_decides nonempty serving.sound serving.fetches
    (by rw [walk]; exact serving.serves) (by rw [serving.limits_eq, serving.cost_eq]; exact decides)
    station.now
  obtain ⟨passed, decided⟩ := Guard.decide_answers serving.reliable complete
    (get?_ip_ofAttempt ip login password) spelled satisfied
  refine ⟨passed, ?_⟩
  rw [fst_act_check, decided]
  rfl

/-- A first check over empty lists ends in a fault if the limits do not allow for a
decision. -/
theorem Serving.check_fails (serving : station.Serving limits cost)
    (unmade : station.guard.throttle.meters = none)
    (unlisted : station.guard.rules.table.rules = [])
    (blocked : ¬ Limit.DecidesAlong limits (max cost 1) (Dimension.all.map Dimension.name)) :
    ∃ fault, (station.act (.check ip login password)).1 = .error fault := by
  have complete := Identity.namesAttempt_ofAttempt (ip_ne_of_read? spelled) login_ne password_ne
  have asked := Guard.decide_eq_satisfy serving.reliable complete
    (get?_ip_ofAttempt ip login password) spelled unlisted station.now
  have stuck : ¬ Limit.DecidesAlong station.guard.throttle.store.limits
      (max station.guard.throttle.cost 1) (Identity.ofAttempt ip login password).dimensions := by
    rw [serving.limits_eq, serving.cost_eq, Identity.dimensions_ofAttempt]
    exact blocked
  obtain ⟨fault, failed⟩ := Throttle.satisfy_fails unmade stuck station.now
  refine ⟨fault, ?_⟩
  rw [fst_act_check, asked, failed]
  rfl

end Checks

end Station

end LoginThrottle
