import LoginThrottle.Proofs.Rule.Store

/-!
# Stores that forget their lookups

A lookup changes nothing but the journal.  When the journal's lookups have no say in which
calls fail, two stores that differ only in them answer everything alike for good.

## Main Definitions

* `Corresponds`: two operations give one answer and leave related states behind
* `RuleOutage.IgnoresLookups`: earlier lookups have no say in which calls fail
* `RuleStore.Alike`: two stores differ at most in the lookups of their journals

## Main Statements

* `RuleStore.serve_alike`: every operation on stores that are alike gives one answer and
  leaves stores that are alike
-/

namespace LoginThrottle

/-- Two operations give the same answer and leave related states behind. -/
structure Corresponds {Answer State : Type} (related : State → State → Prop)
    (first second : Answer × State) : Prop where
  answer : first.1 = second.1
  state : related first.2 second.2

namespace Corresponds

variable {Answer Other State : Type} {related : State → State → Prop}
  {first second : Answer × State}

/-- The answer that both give, and what each leaves behind. -/
theorem exists_eq (same : Corresponds related first second) :
    ∃ answer left right, first = (answer, left) ∧ second = (answer, right) ∧
      related left right := by
  obtain ⟨answer, left⟩ := first
  obtain ⟨_, right⟩ := second
  obtain ⟨rfl, state⟩ := same
  exact ⟨answer, left, right, rfl, rfl, state⟩

/-- What is made of equal answers is equal. -/
theorem map (same : Corresponds related first second) (change : Answer → Other) :
    Corresponds related (change first.1, first.2) (change second.1, second.2) :=
  ⟨congrArg change same.answer, same.state⟩

end Corresponds

/-- Whether a call looks up the rules of a list. -/
def RuleCall.isLookup : RuleCall → Bool
  | ofList _ => true
  | _ => false

/-- The calls of a journal that are no lookups. -/
def withoutLookups (journal : List RuleCall) : List RuleCall :=
  journal.filter fun call => !call.isLookup

/-- Earlier lookups have no say in which calls fail. -/
def RuleOutage.IgnoresLookups (outage : RuleOutage) : Prop :=
  ∀ journal call, outage journal call = outage (withoutLookups journal) call

/-- A store in which some kinds of calls fail, and deletions after a number of them, does not
count lookups. -/
theorem RuleOutage.ignoresLookups_ofNames (names : List String) (deletions : Option Nat) :
    (RuleOutage.ofNames names deletions).IgnoresLookups := by
  intro journal call
  have deletes : (withoutLookups journal).filter RuleCall.isDelete =
      journal.filter RuleCall.isDelete := by
    unfold withoutLookups
    rw [List.filter_filter]
    refine List.filter_congr fun made _ => ?_
    cases made <;> rfl
  simp only [RuleOutage.ofNames, deletes]

namespace RuleStore

/-- Two stores differ at most in the lookups of their journals, which have no say in which
calls fail. -/
structure Alike (first second : RuleStore) : Prop where
  table : first.table = second.table
  outage : first.outage = second.outage
  ignores : first.outage.IgnoresLookups
  journal : withoutLookups first.journal = withoutLookups second.journal

namespace Alike

variable {first second third : RuleStore}

theorem refl {store : RuleStore} (ignores : store.outage.IgnoresLookups) : Alike store store :=
  ⟨rfl, rfl, ignores, rfl⟩

theorem trans (one : Alike first second) (two : Alike second third) : Alike first third :=
  ⟨one.table.trans two.table, one.outage.trans two.outage, one.ignores,
    one.journal.trans two.journal⟩

theorem fails_eq (alike : Alike first second) (call : RuleCall) :
    first.fails call = second.fails call := by
  have ignoresToo : second.outage.IgnoresLookups := alike.outage ▸ alike.ignores
  unfold fails
  rw [alike.ignores, alike.journal, alike.outage, ← ignoresToo]

theorem entered (alike : Alike first second) (call : RuleCall) :
    Alike (first.entered call) (second.entered call) := by
  refine ⟨alike.table, alike.outage, alike.ignores, ?_⟩
  have same := alike.journal
  unfold withoutLookups at same ⊢
  simp only [RuleStore.entered, List.filter_cons, same]

theorem withTable (alike : Alike first second) (table : RuleTable) :
    Alike { first with table := table } { second with table := table } :=
  ⟨rfl, alike.outage, alike.ignores, alike.journal⟩

end Alike

/-- A lookup leaves a store that is like the one before it. -/
theorem alike_entered_ofList {store : RuleStore} (ignores : store.outage.IgnoresLookups)
    (list : ListKind) : Alike store (store.entered (.ofList list)) := by
  refine ⟨rfl, rfl, ignores, ?_⟩
  simp [entered, withoutLookups, RuleCall.isLookup]

/-- So does the question whether an address is listed. -/
theorem alike_isListed {store : RuleStore} (ignores : store.outage.IgnoresLookups)
    (text : String) (list : ListKind) : Alike store (store.isListed text list).2 := by
  rw [isListed_eq]
  cases IpAddress.read? text with
  | none => exact Alike.refl ignores
  | some address => exact alike_entered_ofList ignores list

/-! ### Operations on stores that are alike -/

variable {first second : RuleStore}

theorem perform_alike {Answer : Type} (alike : Alike first second) (call : RuleCall)
    (effect : RuleTable → Answer × RuleTable) :
    Corresponds Alike (first.perform call effect) (second.perform call effect) := by
  have failing := alike.fails_eq call
  unfold fails at failing
  unfold perform
  rw [failing]
  split
  · exact ⟨rfl, alike.entered call⟩
  · rw [alike.table]
    exact ⟨rfl, (alike.entered call).withTable _⟩

theorem isListed_alike (alike : Alike first second) (text : String) (list : ListKind) :
    Corresponds Alike (first.isListed text list) (second.isListed text list) := by
  rw [isListed_eq, isListed_eq]
  cases IpAddress.read? text with
  | none => exact ⟨rfl, alike⟩
  | some address =>
      have looked : first.lookup list = second.lookup list := by
        unfold lookup
        rw [alike.fails_eq, alike.table]
      exact ⟨by rw [looked], alike.entered _⟩

theorem create_alike (alike : Alike first second) (text : String) (list : ListKind) :
    Corresponds Alike (first.create text list) (second.create text list) :=
  perform_alike alike _ _

theorem delete_alike (alike : Alike first second) (id : Int) :
    Corresponds Alike (first.delete id) (second.delete id) :=
  perform_alike alike _ _

theorem find_alike (alike : Alike first second) (text : String) (list : ListKind) :
    Corresponds Alike (first.find text list) (second.find text list) :=
  perform_alike alike _ _

theorem ofList_alike (alike : Alike first second) (list : ListKind) :
    Corresponds Alike (first.ofList list) (second.ofList list) :=
  perform_alike alike _ _

theorem add_alike (alike : Alike first second) (text : String) (list : ListKind) :
    Corresponds Alike (first.add text list) (second.add text list) := by
  unfold add
  cases AddressSet.read? text with
  | none => exact ⟨rfl, alike⟩
  | some _ => exact (create_alike alike text list).map fun created => created.map fun _ => ()

theorem deleteEach_alike (rules : List Rule) (alike : Alike first second) :
    Corresponds Alike (deleteEach rules first) (deleteEach rules second) := by
  induction rules generalizing first second with
  | nil => exact ⟨rfl, alike⟩
  | cons rule rest inductionHypothesis =>
      obtain ⟨result, left, right, one, two, alikeAfter⟩ := (delete_alike alike rule.id).exists_eq
      unfold deleteEach
      rw [one, two]
      cases result with
      | error fault => exact ⟨rfl, alikeAfter⟩
      | ok _ => exact inductionHypothesis alikeAfter

theorem remove_alike (alike : Alike first second) (text : String) (list : ListKind) :
    Corresponds Alike (first.remove text list) (second.remove text list) := by
  obtain ⟨result, left, right, one, two, alikeAfter⟩ := (find_alike alike text list).exists_eq
  unfold remove
  rw [one, two]
  cases result with
  | error fault => exact ⟨rfl, alikeAfter⟩
  | ok rules =>
      cases rules with
      | nil => exact ⟨rfl, alikeAfter⟩
      | cons rule rest => exact deleteEach_alike (rule :: rest) alikeAfter

/-- Every operation on stores that are alike gives one answer and leaves stores that are
alike. -/
theorem serve_alike (alike : Alike first second) (operation : Operation) :
    Corresponds Alike (first.serve operation) (second.serve operation) := by
  cases operation with
  | add text list =>
      exact (add_alike alike text list).map fun result => result.map fun _ => Answer.done
  | remove text list =>
      exact (remove_alike alike text list).map fun result => result.map fun _ => Answer.done
  | isListed text list =>
      exact (isListed_alike alike text list).map fun result => result.map Answer.decision
  | create text list =>
      exact (create_alike alike text list).map fun result => result.map Answer.number
  | delete id => exact (delete_alike alike id).map fun result => result.map fun _ => Answer.done
  | find text list =>
      exact (find_alike alike text list).map fun result => result.map Answer.rules
  | ofList list => exact (ofList_alike alike list).map fun result => result.map Answer.rules

end RuleStore

end LoginThrottle
