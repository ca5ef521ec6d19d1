import LoginThrottle.Proofs.App.AtStation
import LoginThrottle.Proofs.Rule.TextSets

/-!
# Managing the lists of an application

The lists of an application begin with the rules of its configuration and are managed from
then on.  What they answer can be told from the requests that were granted.

## Main Definitions

* `seedRequests`: the rules of a configuration as requests
* `RuleStore.Begins`: the two ways to begin with the lists

## Main Statements

* `RuleStore.Begins.exists_sets`: a store begins as two sets of texts
* `RuleStore.Begins.answers_by_history`: every answer in terms of the texts that are outstanding
-/

namespace LoginThrottle

open ListRequest

/-! ### The rules to start with -/

/-- The requests that put the rules of a configuration on the lists. -/
def seedRequests (rules : SeedRules) : List ListRequest :=
  rules.white.map (.add · .white) ++ rules.black.map (.add · .black)

/-- A station that does not fail to put a text on a list has its store grant the request. -/
theorem Station.granted_of_act {station : Station} {list : ListKind} {text : String}
    {reply : Reply} (acted : (station.act (.add list text)).1 = .ok reply) :
    (station.guard.rules.manage (.add text list)).1 = .ok .done := by
  change (station.guard.rules.add text list).1.map (fun _ => RuleStore.Answer.done) = .ok .done
  change (((station.guard.rules.add text list).1.map fun _ => RuleStore.Answer.done).map
    Station.Answer.rules).map Reply.ofAnswer = .ok reply at acted
  cases added : (station.guard.rules.add text list).1 with
  | error fault =>
      rw [added] at acted
      cases acted
  | ok _ => rfl

/-- What the seed of a station puts on a list is granted, all of it and in the given order. -/
theorem App.seed_additions {list : ListKind} {texts : List String} {later : List Action}
    {station after : Station}
    (seeded : seed (texts.map (.add list) ++ later) station = .ok after) :
    ∃ between, seed later between = .ok after ∧
      between.guard.rules =
        leave RuleStore.manage station.guard.rules (texts.map (.add · list)) ∧
      record RuleStore.manage station.guard.rules (texts.map (.add · list)) =
        (texts.map (.add · list)).map .granted := by
  induction texts generalizing station with
  | nil => exact ⟨station, seeded, rfl, rfl⟩
  | cons text rest inductionHypothesis =>
      rw [List.map_cons, List.cons_append, seed] at seeded
      have rules : (station.act (.add list text)).2.guard.rules =
          (station.guard.rules.manage (.add text list)).2 := rfl
      cases acted : station.act (.add list text) with
      | mk result next =>
          rw [acted] at seeded rules
          cases result with
          | error fault => cases seeded
          | ok reply =>
              have granted : (station.guard.rules.manage (.add text list)).1 = .ok .done :=
                Station.granted_of_act (congrArg Prod.fst acted)
              obtain ⟨between, seededLater, left, recorded⟩ := inductionHypothesis seeded
              refine ⟨between, seededLater, ?_, ?_⟩
              · rw [left, rules]
                rfl
              · rw [List.map_cons, record, granted, ← rules, recorded]
                rfl

namespace RuleStore

/-- The two ways to begin with the lists, and what was put on them before. -/
inductive Begins : RuleStore → List ListRequest → Prop
  | empty : Begins (.new .never) []
  | seeded {config : Config} {app : App} (made : App.ofConfig config = .ok app) :
      Begins app.station.guard.rules (seedRequests config.rules)

namespace Begins

variable {store : RuleStore} {seeds : List ListRequest}

/-- All that was put on the lists before was put on empty lists, and it was granted. -/
theorem from_empty (begins : store.Begins seeds) :
    store = leave manage (.new .never) seeds ∧
      record manage (.new .never) seeds = seeds.map .granted := by
  cases begins with
  | empty => exact ⟨rfl, rfl⟩
  | @seeded config app made =>
      obtain ⟨station, seeded, rfl⟩ := App.exists_seed_of_ofConfig made
      obtain ⟨between, seededBlack, white, recordedWhite⟩ := App.seed_additions seeded
      -- Nothing is done after the black list has been filled.
      rw [← List.append_nil (config.rules.black.map _)] at seededBlack
      obtain ⟨_, done, black, recordedBlack⟩ := App.seed_additions seededBlack
      obtain rfl := Except.ok.inj done
      rw [white] at black recordedBlack
      refine ⟨black.trans (leave_append _ _ _ _).symm, ?_⟩
      rw [seedRequests, List.map_append, record_append]
      exact congrArg₂ (· ++ ·) recordedWhite recordedBlack

/-- A store begins as two sets that hold what was put on the lists before. -/
theorem exists_sets (begins : store.Begins seeds) :
    ∃ sets : TextSets, store.Represents sets ∧ sets.Tells (seeds.map .granted) := by
  obtain ⟨rfl, granted⟩ := begins.from_empty
  have represents := Represents.new.leave seeds
  have tells := TextSets.tells_empty.leave seeds
  rw [← Represents.new.record_eq, granted] at tells
  exact ⟨_, represents, tells⟩

/-- Every answer of the lists can be told from the requests that were granted.  An address is on
a list when an outstanding text covers it, an outstanding text can be taken off, every text that
spells an address or a network can be put on, and what is asked of one list is answered as if
nothing was asked of the other.  An outstanding text covers the address or the network that it
spells. -/
theorem answers_by_history (begins : store.Begins seeds) (requests : List ListRequest) :
    let history := seeds.map .granted ++ record manage store requests
    let after := leave manage store requests
    (∀ ip address list, IpAddress.read? ip = some address →
      ∃ listed, (after.isListed ip list).1 = .ok listed ∧
        (listed = true ↔
          ∃ text, Outstanding history text list ∧ TextCovers text address.embed)) ∧
    (∀ text list, Outstanding history text list → (after.remove text list).1 = .ok ()) ∧
    (∀ text list, ¬ Outstanding history text list →
      (after.remove text list).1 = .error .ruleNotFound) ∧
    (∀ text list, (after.add text list).1 = .ok () ↔
      (IpAddress.read? text).isSome ∨ (IpNetwork.read? text).isSome) ∧
    (∀ list, (record manage store requests).filter (fun entry => entry.request.list = list) =
      record manage store (requests.filter fun request => request.list = list)) ∧
    (∀ text list, Outstanding history text list →
      (∀ address, IpAddress.read? text = some address → (after.isListed text list).1 = .ok true) ∧
      ∀ network, IpNetwork.read? text = some network →
        ∀ ip address, IpAddress.read? ip = some address → network.embed.Holds address.embed →
          (after.isListed ip list).1 = .ok true) ∧
    ∃ sets : TextSets,
      (∀ text list, text ∈ sets list ↔ Outstanding (seeds.map .granted) text list) ∧
      record manage store requests = record TextSets.serve sets requests := by
  obtain ⟨sets, represents, tells⟩ := begins.exists_sets
  have representsAfter := represents.leave requests
  have tellsAfter := tells.leave requests
  rw [← represents.record_eq] at tellsAfter
  intro history after
  refine ⟨?_, ?_, ?_, ?_, ?_, ?_, sets, tells, represents.record_eq requests⟩
  · intro ip address list spelled
    exact representsAfter.exists_isListed tellsAfter list spelled
  · intro text list outstanding
    exact representsAfter.remove_of_outstanding tellsAfter outstanding
  · intro text list gone
    exact representsAfter.remove_of_not_outstanding tellsAfter gone
  · exact representsAfter.add_eq_ok_iff
  · intro list
    exact represents.filter_record list requests
  · intro text list outstanding
    constructor
    · intro address spelled
      exact representsAfter.isListed_of_outstanding tellsAfter outstanding spelled
        (.inl ⟨address, spelled, rfl⟩)
    · intro network spelled ip address spelledIp held
      exact representsAfter.isListed_of_outstanding tellsAfter outstanding spelledIp
        (.inr ⟨network, spelled, held⟩)

/-- A configuration that puts one network on the white list twice. -/
def doubled : Config where
  rules := { white := ["10.0.0.0/8", "10.0.0.0/8"], black := ["10.1.2.3"] }

/-- Both copies of the network leave the white list at once, and the black list keeps its
address. -/
theorem doubled_answers :
    ∃ app, App.ofConfig doubled = .ok app ∧
      let after := leave manage app.station.guard.rules [.remove "10.0.0.0/8" .white]
      (after.isListed "10.1.2.3" .black).1 = .ok true ∧
        (after.remove "10.0.0.0/8" .white).1 = .error .ruleNotFound := by
  obtain ⟨app, made⟩ : ∃ app, App.ofConfig doubled = .ok app := ⟨_, rfl⟩
  have begins := Begins.seeded made
  have removed : record manage app.station.guard.rules [.remove "10.0.0.0/8" .white] =
      [.granted (.remove "10.0.0.0/8" .white)] := by
    rw [begins.from_empty.1]
    rfl
  obtain ⟨_, _, gone, _, _, covers, _⟩ :=
    answers_by_history begins [.remove "10.0.0.0/8" .white]
  rw [removed] at gone covers
  refine ⟨app, made, ?_, gone _ _ ?_⟩
  · have outstanding : Outstanding
        ((seedRequests doubled.rules).map .granted ++ [.granted (.remove "10.0.0.0/8" .white)])
        "10.1.2.3" .black :=
      ⟨[.granted (.add "10.0.0.0/8" .white), .granted (.add "10.0.0.0/8" .white)],
        [.granted (.remove "10.0.0.0/8" .white)], rfl, by simp [ListEntry.granted]⟩
    exact (covers _ _ outstanding).1 (.v4 0x0A010203#32) (by decide)
  · rw [outstanding_concat]
    simp [ListEntry.granted]

end Begins

end RuleStore

end LoginThrottle
