import LoginThrottle.Rule.Membership

/-!
# What the calls of a rule store leave behind

A call is entered into the journal whether it fails or not.  One that fails leaves the
table alone, and a lookup leaves it alone in any case.

## Main Definitions

* `RuleStore.entered`: the store once a call stands in its journal
* `RuleStore.fails`: whether the next call will fail
* `RuleStore.Deletes`, `RuleStore.Removes`: how a deletion of rules and a removal may end
* `RuleStore.Stable`: an invariant that no single call breaks
* `RuleStore.Kept`: an invariant of the table and of the journal, each on its own

## Main Statements

* `RuleStore.ofList_eq`: the answer of a lookup and the store behind it
* `RuleStore.isListed_eq`: the same for the question whether an address is listed
* `RuleStore.removes`: how a removal ends, whichever calls fail
* `RuleStore.Stable.serve`: what no call breaks is not broken by any operation
-/

namespace LoginThrottle

namespace RuleStore

/-- The store once a call stands in its journal. -/
def entered (store : RuleStore) (call : RuleCall) : RuleStore :=
  { store with journal := call :: store.journal }

/-- Whether a call would fail if it were made now. -/
def fails (store : RuleStore) (call : RuleCall) : Bool :=
  store.outage store.journal call

/-- The answer of a lookup that is made now. -/
def lookup (store : RuleStore) (list : ListKind) : Except Fault (List Rule) :=
  if store.fails (.ofList list) then .error (RuleCall.ofList list).fault
  else .ok (store.table.ofList list)

theorem ofList_eq (store : RuleStore) (list : ListKind) :
    store.ofList list = (store.lookup list, store.entered (.ofList list)) := by
  unfold ofList perform lookup fails
  by_cases failing : store.outage store.journal (.ofList list) = true
  · rw [if_pos failing, if_pos failing]
    rfl
  · rw [if_neg failing, if_neg failing]
    rfl

/-- An address is listed when a rule of the list is about it.  A text that spells no
address is refused before any call is made. -/
theorem isListed_eq (store : RuleStore) (text : String) (list : ListKind) :
    store.isListed text list =
      match IpAddress.read? text with
      | none => (.error (.invalidAddress text), store)
      | some address =>
          ((store.lookup list).map fun rules => rules.any fun rule => rule.covers address.canonical,
            store.entered (.ofList list)) := by
  unfold isListed
  cases IpAddress.read? text with
  | none => rfl
  | some address =>
      rw [ofList_eq]
      cases answered : store.lookup list with
      | error fault => simp [Except.map]
      | ok rules => simp [Except.map]

end RuleStore

/-! ### Deletions -/

namespace RuleTable

/-- The table without the rules that have one of the numbers. -/
def deleteIds (table : RuleTable) (ids : List Int) : RuleTable :=
  { table with rules := table.rules.filter fun rule => rule.id ∉ ids }

theorem deleteIds_nil (table : RuleTable) : table.deleteIds [] = table := by
  have all : table.rules.filter (fun _ => true) = table.rules :=
    List.filter_eq_self.2 fun _ _ => rfl
  simp only [deleteIds, List.not_mem_nil, not_false_eq_true, decide_true, all]

theorem deleteIds_cons (table : RuleTable) (id : Int) (ids : List Int) :
    table.deleteIds (id :: ids) = (table.delete id).deleteIds ids := by
  simp only [deleteIds, delete, List.filter_filter, List.mem_cons, not_or, ne_eq,
    Bool.decide_and, Bool.and_comm]

end RuleTable

namespace RuleStore

/-- How many deletions the store was asked for so far. -/
def deletions (store : RuleStore) : Nat :=
  (store.journal.filter RuleCall.isDelete).length

/-- How the deletion of some rules one by one may end. -/
inductive Deletes (store : RuleStore) (rules : List Rule) : Except Fault Unit × RuleStore → Prop
  | all {after : RuleStore}
      (left : after.table = store.table.deleteIds (rules.map Rule.id))
      (asked : after.deletions = store.deletions + rules.length) :
      Deletes store rules (.ok (), after)
  /-- The deletion behind the first `done` ones failed. -/
  | some {after : RuleStore} {failed : RuleCall} (done : Nat) (short : done < rules.length)
      (deletion : failed.isDelete = true)
      (refused : ∃ journal, store.outage journal failed = true)
      (left : after.table = store.table.deleteIds ((rules.take done).map Rule.id))
      (asked : after.deletions = store.deletions + (done + 1)) :
      Deletes store rules (.error failed.fault, after)

/-- A deletion that succeeds comes before those that follow it. -/
theorem Deletes.cons {store between : RuleStore} {rule : Rule} {rest : List Rule}
    {ended : Except Fault Unit × RuleStore} (deletes : Deletes between rest ended)
    (left : between.table = store.table.delete rule.id)
    (outage_eq : between.outage = store.outage)
    (asked : between.deletions = store.deletions + 1) : Deletes store (rule :: rest) ended := by
  cases deletes with
  | all leftLater askedLater =>
      refine .all ?_ ?_
      · rw [leftLater, left, List.map_cons, RuleTable.deleteIds_cons]
      · rw [askedLater, asked, List.length_cons, Nat.add_assoc, Nat.add_comm 1]
  | some done short deletion refused leftLater askedLater =>
      refine .some (done + 1) (Nat.succ_lt_succ short) deletion (outage_eq ▸ refused) ?_ ?_
      · rw [leftLater, left, List.take_succ_cons, List.map_cons, RuleTable.deleteIds_cons]
      · rw [askedLater, asked, Nat.add_assoc, Nat.add_comm 1]

/-- Rules are deleted in order, up to the first deletion that fails. -/
theorem deletes (rules : List Rule) (store : RuleStore) :
    Deletes store rules (deleteEach rules store) := by
  induction rules generalizing store with
  | nil => exact .all (store.table.deleteIds_nil).symm rfl
  | cons rule rest inductionHypothesis =>
      rw [deleteEach, delete, perform]
      by_cases failing : store.outage store.journal (.delete rule.id) = true
      · rw [if_pos failing]
        exact .some 0 (Nat.zero_lt_succ _) rfl ⟨store.journal, failing⟩
          (store.table.deleteIds_nil).symm rfl
      · rw [if_neg failing]
        exact (inductionHypothesis _).cons rfl rfl rfl

/-- How it may end that a text is taken off a list. -/
inductive Removes (store : RuleStore) (text : String) (list : ListKind) :
    Except Fault Unit × RuleStore → Prop
  /-- The search for the rules failed. -/
  | unsearched (failing : store.fails (.find text list) = true) :
      Removes store text list
        (.error (RuleCall.find text list).fault, store.entered (.find text list))
  | missing (answers : store.fails (.find text list) = false)
      (none : store.table.find text list = []) :
      Removes store text list (.error .ruleNotFound, store.entered (.find text list))
  | deleting {ended : Except Fault Unit × RuleStore}
      (answers : store.fails (.find text list) = false)
      (found : store.table.find text list ≠ [])
      (deletes : Deletes (store.entered (.find text list)) (store.table.find text list) ended) :
      Removes store text list ended

/-- How it ends that a text is taken off a list, whichever calls fail. -/
theorem removes (store : RuleStore) (text : String) (list : ListKind) :
    Removes store text list (store.remove text list) := by
  rw [remove, find, perform]
  by_cases failing : store.outage store.journal (.find text list) = true
  · rw [if_pos failing]
    exact .unsearched failing
  · rw [if_neg failing]
    have answers : store.fails (.find text list) = false := Bool.eq_false_iff.2 failing
    cases found : store.table.find text list with
    | nil => exact .missing answers found
    | cons rule rest =>
        refine .deleting answers (found ▸ List.cons_ne_nil _ _) ?_
        rw [found]
        exact deletes (rule :: rest) (store.entered (.find text list))

/-! ### Invariants -/

/-- An invariant of stores that survives every single call. -/
structure Stable (Invariant : RuleStore → Prop) : Prop where
  create : ∀ {store : RuleStore} (text : String) (list : ListKind), Invariant store →
    Invariant (store.create text list).2
  delete : ∀ {store : RuleStore} (id : Int), Invariant store → Invariant (store.delete id).2
  ofList : ∀ {store : RuleStore} (list : ListKind), Invariant store →
    Invariant (store.ofList list).2
  find : ∀ {store : RuleStore} (text : String) (list : ListKind), Invariant store →
    Invariant (store.find text list).2

namespace Stable

variable {Invariant : RuleStore → Prop} {store : RuleStore}

theorem isListed (stable : Stable Invariant) (holds : Invariant store) (text : String)
    (list : ListKind) : Invariant (store.isListed text list).2 := by
  have looked := stable.ofList list holds
  rw [ofList_eq] at looked
  rw [isListed_eq]
  split
  · exact holds
  · exact looked

theorem add (stable : Stable Invariant) (holds : Invariant store) (text : String)
    (list : ListKind) : Invariant (store.add text list).2 := by
  unfold RuleStore.add
  split
  · exact holds
  · exact stable.create text list holds

theorem deleteEach (stable : Stable Invariant) (holds : Invariant store) (rules : List Rule) :
    Invariant (deleteEach rules store).2 := by
  induction rules generalizing store with
  | nil => exact holds
  | cons rule rest inductionHypothesis =>
      have deleted := stable.delete rule.id holds
      rw [RuleStore.deleteEach]
      cases answered : store.delete rule.id with
      | mk result after =>
          rw [answered] at deleted
          cases result with
          | error fault => exact deleted
          | ok _ => exact inductionHypothesis deleted

theorem remove (stable : Stable Invariant) (holds : Invariant store) (text : String)
    (list : ListKind) : Invariant (store.remove text list).2 := by
  have searched := stable.find text list holds
  rw [RuleStore.remove]
  cases answered : store.find text list with
  | mk result after =>
      rw [answered] at searched
      rcases result with fault | _ | ⟨rule, rest⟩
      · exact searched
      · exact searched
      · exact stable.deleteEach searched (rule :: rest)

/-- No operation breaks what no single call breaks. -/
theorem serve (stable : Stable Invariant) (holds : Invariant store) (operation : Operation) :
    Invariant (store.serve operation).2 := by
  cases operation with
  | add text list => exact stable.add holds text list
  | remove text list => exact stable.remove holds text list
  | isListed text list => exact stable.isListed holds text list
  | create text list => exact stable.create text list holds
  | delete id => exact stable.delete id holds
  | find text list => exact stable.find text list holds
  | ofList list => exact stable.ofList list holds

end Stable

/-- An invariant of stores that survives an entry in the journal, a new rule and the deletion
of a rule. -/
structure Kept (Invariant : RuleStore → Prop) : Prop where
  entered : ∀ {store : RuleStore} (call : RuleCall), Invariant store →
    Invariant (store.entered call)
  create : ∀ {store : RuleStore} (text : String) (list : ListKind), Invariant store →
    Invariant { store with table := (store.table.create text list).2 }
  delete : ∀ {store : RuleStore} (id : Int), Invariant store →
    Invariant { store with table := store.table.delete id }

namespace Kept

variable {Invariant : RuleStore → Prop} {store : RuleStore}

theorem perform (kept : Kept Invariant) {Answer : Type} (call : RuleCall)
    (effect : RuleTable → Answer × RuleTable) (holds : Invariant store)
    (filed : Invariant { store with table := (effect store.table).2 }) :
    Invariant (store.perform call effect).2 := by
  unfold RuleStore.perform
  split
  · exact kept.entered call holds
  · exact kept.entered call filed

/-- Whether the calls fail or not, such an invariant survives them. -/
theorem stable (kept : Kept Invariant) : Stable Invariant where
  create text list holds := kept.perform _ _ holds (kept.create text list holds)
  delete id holds := kept.perform _ _ holds (kept.delete id holds)
  ofList _ holds := kept.perform _ _ holds holds
  find _ _ holds := kept.perform _ _ holds holds

end Kept

end RuleStore

end LoginThrottle
