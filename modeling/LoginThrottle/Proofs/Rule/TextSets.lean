import LoginThrottle.Proofs.Rule.Chronology
import LoginThrottle.Proofs.Rule.Membership
import Mathlib.Data.Finset.Erase
import Mathlib.Data.Finset.Insert
import Mathlib.Logic.Function.Basic

/-!
# The lists as sets of texts

A store keeps every copy of a text as a rule of its own, in one sequence for both lists.
Whoever manages a store that never fails and asks it about addresses sees two sets of texts
instead.

## Main Definitions

* `ListRequest`: what is asked of the lists, and `ListRequest.record` for a run of requests
* `TextSets`: for each list the texts on it, with the answers they give
* `RuleStore.Represents`: the texts of the rules are those of two sets
* `Outstanding`: a text was put on a list and not taken off again since

## Main Statements

* `RuleStore.Represents.record_eq`: a store answers every run of requests like two sets
* `TextSets.Tells.leave`: after a run the sets hold the texts that are outstanding
* `TextSets.filter_record`: a list answers as if nothing was asked of the other one

## Design Notes

The sets have no numbers, no order and no copies.  So all that the store knows beyond them has
no influence on an answer.
-/

namespace LoginThrottle

/-! ### Requests and their record -/

/-- What is asked of the lists. -/
inductive ListRequest
  /-- A text to be put on a list. -/
  | add (text : String) (list : ListKind)
  /-- A text to be taken off a list. -/
  | remove (text : String) (list : ListKind)
  /-- Whether the address that a text spells is on a list. -/
  | ask (text : String) (list : ListKind)
  deriving DecidableEq

namespace ListRequest

/-- The operation on a store that a request asks for. -/
def operation : ListRequest → RuleStore.Operation
  | add text list => .add text list
  | remove text list => .remove text list
  | ask text list => .isListed text list

/-- The list that a request is about. -/
def list : ListRequest → ListKind
  | add _ list | remove _ list | ask _ list => list

end ListRequest

/-- A request and the answer it was given. -/
structure ListEntry where
  request : ListRequest
  answer : Except Fault RuleStore.Answer

namespace ListEntry

/-- A request that changes the lists and was granted. -/
def granted (request : ListRequest) : ListEntry :=
  ⟨request, .ok .done⟩

end ListEntry

namespace ListRequest

variable {State : Type} (serve : State → ListRequest → Except Fault RuleStore.Answer × State)

/-- Some requests with the answers they are given one after the other. -/
def record : State → List ListRequest → List ListEntry
  | _, [] => []
  | state, request :: rest =>
      ⟨request, (serve state request).1⟩ :: record (serve state request).2 rest

/-- What some requests leave behind. -/
def leave (state : State) (requests : List ListRequest) : State :=
  requests.foldl (fun state request => (serve state request).2) state

theorem leave_append (state : State) (first second : List ListRequest) :
    leave serve state (first ++ second) = leave serve (leave serve state first) second :=
  List.foldl_append

theorem record_append (state : State) (first second : List ListRequest) :
    record serve state (first ++ second) =
      record serve state first ++ record serve (leave serve state first) second := by
  induction first generalizing state with
  | nil => rfl
  | cons request rest inductionHypothesis =>
      exact congrArg (_ :: ·) (inductionHypothesis (serve state request).2)

end ListRequest

open ListRequest

/-! ### Two sets of texts -/

instance (leading : AddressPrefix) (address : BitVec 128) : Decidable (leading.Holds address) :=
  inferInstanceAs (Decidable (∀ position < leading.length, _))

instance (text : String) (address : BitVec 128) : Decidable (TextCovers text address) :=
  inferInstanceAs (Decidable ((∃ single ∈ IpAddress.read? text, _) ∨
    ∃ network ∈ IpNetwork.read? text, _))

/-- For each list the texts on it. -/
abbrev TextSets := ListKind → Finset String

namespace TextSets

/-- The answer of the texts on one list to a request about it, and the texts after it. -/
def serveList (texts : Finset String) :
    ListRequest → Except Fault RuleStore.Answer × Finset String
  | .add text _ =>
      if (IpAddress.read? text).isSome ∨ (IpNetwork.read? text).isSome then
        (.ok .done, insert text texts)
      else
        (.error (.invalidAddress text), texts)
  | .remove text _ =>
      if text ∈ texts then (.ok .done, texts.erase text) else (.error .ruleNotFound, texts)
  | .ask text _ =>
      ((IpAddress.read? text).elim (.error (.invalidAddress text)) fun address =>
        .ok (.decision (∃ text ∈ texts, TextCovers text address.embed)), texts)

/-- The answer of two sets of texts to a request, and the sets after it. -/
def serve (sets : TextSets) (request : ListRequest) :
    Except Fault RuleStore.Answer × TextSets :=
  let (answer, texts) := serveList (sets request.list) request
  (answer, Function.update sets request.list texts)

theorem serve_add (sets : TextSets) (text : String) (list : ListKind) :
    sets.serve (.add text list) =
      if (IpAddress.read? text).isSome ∨ (IpNetwork.read? text).isSome then
        (.ok .done, Function.update sets list (insert text (sets list)))
      else
        (.error (.invalidAddress text), sets) := by
  simp only [serve, serveList, ListRequest.list]
  split
  · rfl
  · rw [Function.update_eq_self]

theorem serve_remove (sets : TextSets) (text : String) (list : ListKind) :
    sets.serve (.remove text list) =
      if text ∈ sets list then
        (.ok .done, Function.update sets list ((sets list).erase text))
      else
        (.error .ruleNotFound, sets) := by
  by_cases member : text ∈ sets list <;> simp [serve, serveList, ListRequest.list, member]

theorem serve_ask (sets : TextSets) (text : String) (list : ListKind) :
    sets.serve (.ask text list) =
      ((IpAddress.read? text).elim (.error (.invalidAddress text)) fun address =>
        .ok (.decision (∃ text ∈ sets list, TextCovers text address.embed)), sets) := by
  simp only [serve, serveList, Function.update_eq_self]
  rfl

end TextSets

namespace RuleStore

/-- The answer of a store to a request, and the store after it. -/
def manage (store : RuleStore) (request : ListRequest) : Except Fault Answer × RuleStore :=
  store.serve request.operation

/-- A store that never fails takes every text that spells an address or a network. -/
theorem Reliable.add_eq {store : RuleStore} (reliable : store.Reliable) (text : String)
    (list : ListKind) :
    store.add text list =
      if (IpAddress.read? text).isSome ∨ (IpNetwork.read? text).isSome then
        (.ok (), { store.entered (.create text list) with
          table := (store.table.create text list).2 })
      else
        (.error (.invalidAddress text), store) := by
  unfold add AddressSet.read?
  cases IpAddress.read? text with
  | some address => simp [create, reliable.perform_eq, Except.map]
  | none =>
      cases IpNetwork.read? text with
      | some network => simp [create, reliable.perform_eq, Except.map]
      | none => simp

/-- The rules of a store that never fails are numbered, and their texts are those of two
sets. -/
structure Represents (store : RuleStore) (sets : TextSets) : Prop where
  reliable : store.Reliable
  numbered : store.table.Numbered
  mem_iff : ∀ text list,
    text ∈ sets list ↔ ∃ rule ∈ store.table.rules, rule.list = list ∧ rule.text = text

namespace Represents

variable {store : RuleStore} {sets : TextSets}

/-- A new store stands for two empty sets. -/
theorem new : (RuleStore.new .never).Represents fun _ => ∅ where
  reliable := rfl
  numbered := .empty
  mem_iff := by simp [RuleStore.new, RuleTable.empty]

theorem exists_covering_iff (represents : store.Represents sets) (list : ListKind)
    (address : BitVec 128) :
    (∃ text ∈ sets list, TextCovers text address) ↔
      ∃ rule ∈ store.table.rules, rule.list = list ∧ TextCovers rule.text address := by
  constructor
  · rintro ⟨text, member, covered⟩
    obtain ⟨rule, known, onList, rfl⟩ := (represents.mem_iff text list).1 member
    exact ⟨rule, known, onList, covered⟩
  · rintro ⟨rule, known, onList, covered⟩
    exact ⟨rule.text, (represents.mem_iff rule.text list).2 ⟨rule, known, onList, rfl⟩, covered⟩

/-- A text that spells an address or a network comes onto the list, any other is refused. -/
theorem add (represents : store.Represents sets) (text : String) (list : ListKind) :
    (store.manage (.add text list)).1 = (sets.serve (.add text list)).1 ∧
      (store.manage (.add text list)).2.Represents (sets.serve (.add text list)).2 := by
  simp only [manage, operation, RuleStore.serve, TextSets.serve_add, represents.reliable.add_eq]
  split
  · refine ⟨rfl, represents.reliable, represents.numbered.create text list, ?_⟩
    intro other kind
    simp only [RuleTable.create, List.mem_append, List.mem_singleton, or_and_right, exists_or,
      exists_eq_left, ← represents.mem_iff]
    by_cases same : kind = list
    · subst same
      simp [or_comm, eq_comm]
    · simp [Function.update_of_ne same, Ne.symm same]
  · exact ⟨rfl, represents⟩

/-- The result of taking a text off a list. -/
theorem fst_remove (represents : store.Represents sets) (text : String) (list : ListKind) :
    (store.remove text list).1 =
      if text ∈ sets list then .ok () else .error .ruleNotFound := by
  have absent : store.table.find text list = [] ↔ text ∉ sets list := by
    simp [represents.mem_iff, RuleTable.find, List.filter_eq_nil_iff]
  rw [(represents.reliable.remove_eq text list).1]
  by_cases member : text ∈ sets list <;> simp [absent, member]

/-- A text on the list leaves it with all its copies, any other is not found. -/
theorem remove (represents : store.Represents sets) (text : String) (list : ListKind) :
    (store.manage (.remove text list)).1 = (sets.serve (.remove text list)).1 ∧
      (store.manage (.remove text list)).2.Represents (sets.serve (.remove text list)).2 := by
  have table := represents.reliable.table_remove represents.numbered text list
  have reliable := (outage_remove store text list).trans represents.reliable
  have numbered := kept_numbered.stable.remove represents.numbered text list
  -- All copies are gone at once, so that no rule is left that has the text on the list.
  have left (other : String) (kind : ListKind) :
      (∃ rule ∈ (store.remove text list).2.table.rules, rule.list = kind ∧ rule.text = other) ↔
        other ∈ sets kind ∧ ¬ (kind = list ∧ other = text) := by
    simp only [table, RuleTable.without, List.mem_filter, decide_eq_true_eq, represents.mem_iff]
    constructor
    · rintro ⟨rule, ⟨known, different⟩, rfl, rfl⟩
      exact ⟨⟨rule, known, rfl, rfl⟩, different⟩
    · rintro ⟨⟨rule, known, rfl, rfl⟩, different⟩
      exact ⟨rule, ⟨known, different⟩, rfl, rfl⟩
  simp only [manage, operation, RuleStore.serve, TextSets.serve_remove,
    represents.fst_remove]
  by_cases member : text ∈ sets list
  · rw [if_pos member, if_pos member]
    refine ⟨rfl, reliable, numbered, ?_⟩
    intro other kind
    rw [left]
    by_cases same : kind = list
    · subst same
      simp [and_comm]
    · simp [same]
  · -- Without a rule that has the text nothing is taken away.
    rw [if_neg member, if_neg member]
    refine ⟨rfl, reliable, numbered, ?_⟩
    intro other kind
    rw [left, iff_self_and]
    rintro present ⟨rfl, rfl⟩
    exact member present

/-- The store finds a text that covers an address exactly if the set has one. -/
theorem ask (represents : store.Represents sets) (text : String) (list : ListKind) :
    (store.manage (.ask text list)).1 = (sets.serve (.ask text list)).1 ∧
      (store.manage (.ask text list)).2.Represents (sets.serve (.ask text list)).2 := by
  simp only [manage, operation, RuleStore.serve, TextSets.serve_ask]
  rw [isListed_eq]
  cases spelled : IpAddress.read? text with
  | none => exact ⟨rfl, represents⟩
  | some address =>
      have answered : store.lookup list = .ok (store.table.ofList list) := by
        rw [lookup, represents.reliable.fails_eq, if_neg Bool.false_ne_true]
      have decided : ((store.table.ofList list).any fun rule => rule.covers address.canonical) =
          decide (∃ text ∈ sets list, TextCovers text address.embed) := by
        rw [Bool.eq_iff_iff, any_covers_iff, decide_eq_true_iff, represents.exists_covering_iff]
      simp only [answered, Except.map, decided, Option.elim_some, true_and]
      exact ⟨represents.reliable, represents.numbered, represents.mem_iff⟩

/-- A store answers a request like the two sets, and it stands for the sets after it. -/
theorem manage (represents : store.Represents sets) (request : ListRequest) :
    (store.manage request).1 = (sets.serve request).1 ∧
      (store.manage request).2.Represents (sets.serve request).2 := by
  cases request with
  | add text list => exact represents.add text list
  | remove text list => exact represents.remove text list
  | ask text list => exact represents.ask text list

/-- A store answers every run of requests like the two sets. -/
theorem record_eq (represents : store.Represents sets) (requests : List ListRequest) :
    record RuleStore.manage store requests = record TextSets.serve sets requests := by
  induction requests generalizing store sets with
  | nil => rfl
  | cons request rest inductionHypothesis =>
      obtain ⟨answer, after⟩ := represents.manage request
      rw [record, record, answer, inductionHypothesis after]

/-- After a run of requests a store stands for the sets after that run. -/
theorem leave (represents : store.Represents sets) (requests : List ListRequest) :
    (leave RuleStore.manage store requests).Represents (leave TextSets.serve sets requests) := by
  induction requests generalizing store sets with
  | nil => exact represents
  | cons request rest inductionHypothesis =>
      exact inductionHypothesis (represents.manage request).2

end Represents

end RuleStore

/-! ### What the sets hold -/

/-- In some history a text was put on a list, and it was not taken off the list after that. -/
def Outstanding (history : List ListEntry) (text : String) (list : ListKind) : Prop :=
  ∃ before after, history = before ++ .granted (.add text list) :: after ∧
    .granted (.remove text list) ∉ after

/-- What one more entry of a history means for a text. -/
theorem outstanding_concat (history : List ListEntry) (entry : ListEntry) (text : String)
    (list : ListKind) :
    Outstanding (history ++ [entry]) text list ↔
      entry = .granted (.add text list) ∨
        Outstanding history text list ∧ entry ≠ .granted (.remove text list) :=
  standsIn_concat history entry (.granted (.add text list)) (.granted (.remove text list))

namespace TextSets

/-- The sets hold the texts that are outstanding in a history. -/
def Tells (sets : TextSets) (history : List ListEntry) : Prop :=
  ∀ text list, text ∈ sets list ↔ Outstanding history text list

variable {sets : TextSets} {history : List ListEntry}

theorem tells_empty : Tells (fun _ => ∅) [] := by
  intro text list
  simp [Outstanding]

theorem Tells.serve (tells : sets.Tells history) (request : ListRequest) :
    (sets.serve request).2.Tells (history ++ [⟨request, (sets.serve request).1⟩]) := by
  intro text list
  rw [outstanding_concat, ← tells text list]
  by_cases about : list = request.list
  · subst about
    simp only [TextSets.serve, Function.update_self]
    cases request with
    | add other kind =>
        simp only [serveList]
        split <;> simp [ListEntry.granted, ListRequest.list, eq_comm]
    | remove other kind =>
        simp only [serveList]
        split <;> simp [ListEntry.granted, ListRequest.list, eq_comm, and_comm]
    | ask other kind => simp [serveList, ListEntry.granted, ListRequest.list]
  · -- A request about the other list is none about this text.
    have notAdded : request ≠ .add text list := fun same => about (same ▸ rfl)
    have notRemoved : request ≠ .remove text list := fun same => about (same ▸ rfl)
    simp [TextSets.serve, Function.update_of_ne about, ListEntry.granted, notAdded, notRemoved]

/-- After a run of requests the sets hold the texts that are outstanding. -/
theorem Tells.leave (tells : sets.Tells history) (requests : List ListRequest) :
    (leave TextSets.serve sets requests).Tells (history ++ record TextSets.serve sets requests) := by
  induction requests generalizing sets history with
  | nil => simpa [ListRequest.leave, record] using tells
  | cons request rest inductionHypothesis =>
      have next := inductionHypothesis (tells.serve request)
      rwa [List.append_assoc] at next

/-! ### One list and the other -/

/-- What is asked of one list is answered as if nothing was asked of the other one. -/
theorem filter_record {other : TextSets} (list : ListKind) (same : sets list = other list)
    (requests : List ListRequest) :
    (record TextSets.serve sets requests).filter (fun entry => entry.request.list = list) =
      record TextSets.serve other (requests.filter fun request => request.list = list) := by
  induction requests generalizing sets other with
  | nil => rfl
  | cons request rest inductionHypothesis =>
      by_cases about : request.list = list
      · subst about
        have after : (sets.serve request).2 request.list = (other.serve request).2 request.list := by
          simp [serve, same]
        have answer : (sets.serve request).1 = (other.serve request).1 := by
          simp [serve, same]
        simp [record, answer, inductionHypothesis after]
      · have after : (sets.serve request).2 list = other list := by
          simp [serve, Function.update_of_ne (Ne.symm about), same]
        simp [record, about, inductionHypothesis after]

end TextSets

/-! ### Answers by the history -/

namespace RuleStore.Represents

variable {store : RuleStore} {sets : TextSets} {history : List ListEntry}

/-- An address is on a list when an outstanding text covers it. -/
theorem exists_isListed (represents : store.Represents sets) (tells : sets.Tells history)
    {ip : String} {address : IpAddress} (list : ListKind)
    (spelled : IpAddress.read? ip = some address) :
    ∃ listed, (store.isListed ip list).1 = .ok listed ∧
      (listed = true ↔ ∃ text, Outstanding history text list ∧ TextCovers text address.embed) := by
  obtain ⟨listed, answer, meaning⟩ :=
    isListed_of_answers spelled (represents.reliable.fails_eq (.ofList list))
  refine ⟨listed, answer, meaning.trans ?_⟩
  rw [← represents.exists_covering_iff]
  simp only [tells _ list]

/-- An address that an outstanding text covers is on the list. -/
theorem isListed_of_outstanding (represents : store.Represents sets)
    (tells : sets.Tells history) {text ip : String} {address : IpAddress} {list : ListKind}
    (outstanding : Outstanding history text list) (spelled : IpAddress.read? ip = some address)
    (covered : TextCovers text address.embed) : (store.isListed ip list).1 = .ok true := by
  obtain ⟨listed, answer, meaning⟩ := represents.exists_isListed tells list spelled
  rw [answer, meaning.2 ⟨text, outstanding, covered⟩]

theorem remove_of_outstanding (represents : store.Represents sets) (tells : sets.Tells history)
    {text : String} {list : ListKind} (outstanding : Outstanding history text list) :
    (store.remove text list).1 = .ok () := by
  rw [represents.fst_remove, if_pos ((tells text list).2 outstanding)]

theorem remove_of_not_outstanding (represents : store.Represents sets)
    (tells : sets.Tells history) {text : String} {list : ListKind}
    (gone : ¬ Outstanding history text list) :
    (store.remove text list).1 = .error .ruleNotFound := by
  rw [represents.fst_remove, if_neg fun member => gone ((tells text list).1 member)]

theorem add_eq_ok_iff (represents : store.Represents sets) (text : String) (list : ListKind) :
    (store.add text list).1 = .ok () ↔
      (IpAddress.read? text).isSome ∨ (IpNetwork.read? text).isSome := by
  rw [represents.reliable.add_eq]
  split
  · next readable => exact iff_of_true rfl readable
  · next unreadable => exact iff_of_false (by simp) unreadable

/-- A list answers as if nothing was asked of the other one. -/
theorem filter_record (represents : store.Represents sets) (list : ListKind)
    (requests : List ListRequest) :
    (record RuleStore.manage store requests).filter (fun entry => entry.request.list = list) =
      record RuleStore.manage store (requests.filter fun request => request.list = list) := by
  rw [represents.record_eq, represents.record_eq, TextSets.filter_record list rfl]

end RuleStore.Represents

end LoginThrottle
