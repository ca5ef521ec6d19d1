import LoginThrottle.Proofs.Rule.Numbering

/-!
# Rules in the order of their creation

A store keeps a journal of the calls that it takes.  If none of them fails, the journal tells
which rules were ever created, with which numbers, and which numbers were deleted.  The rules
that are stored are those that were not deleted since their creation, in the order of their
creation.

## Main Definitions

* `StandsIn`: an entry of a history that was not taken back since
* `RuleChange`: the creation or the deletion of a rule
* `RuleTable.replay`, `changesOf`: what the calls of a journal make of an empty table, and what
  they change on the way
* `RuleTable.Recalls`: a table agrees with the changes that were made to it
* `RuleStore.serveAll`: a store behind some operations

## Main Statements

* `RuleTable.Recalls.apply`: a table agrees with one more change
* `RuleStore.recalls_serveAll`: the table of a store agrees with its journal
* `RuleStore.numbers_never_reused`: numbers are handed out once, and what is stored is in their
  order

## Design Notes

A number may be deleted before any rule has it.  Such a deletion has no effect on the rule that
is given the number later, so a deletion only counts for the rules created before it.
-/

namespace LoginThrottle

/-! ### Entries that stand -/

/-- An entry was made in a history, and it was not taken back since. -/
def StandsIn {Entry : Type} (history : List Entry) (entry revocation : Entry) : Prop :=
  ∃ before after, history = before ++ entry :: after ∧ revocation ∉ after

/-- What one more entry of a history means for an entry. -/
theorem standsIn_concat {Entry : Type} (history : List Entry) (latest entry revocation : Entry) :
    StandsIn (history ++ [latest]) entry revocation ↔
      latest = entry ∨ StandsIn history entry revocation ∧ latest ≠ revocation := by
  constructor
  · rintro ⟨before, after, split, kept⟩
    rcases List.eq_nil_or_concat after with rfl | ⟨later, last, rfl⟩
    · exact .inl (List.singleton_inj.1 (List.append_inj' split rfl).2)
    · rw [List.concat_eq_append] at split kept
      rw [← List.cons_append, ← List.append_assoc] at split
      obtain ⟨earlier, same⟩ := List.append_inj' split rfl
      rw [List.singleton_inj.1 same]
      simp only [List.mem_append, List.mem_singleton, not_or] at kept
      exact .inr ⟨⟨before, later, earlier, kept.1⟩, Ne.symm kept.2⟩
  · rintro (rfl | ⟨⟨before, after, rfl, kept⟩, different⟩)
    · exact ⟨history, [], rfl, List.not_mem_nil⟩
    · refine ⟨before, after ++ [latest], by simp, ?_⟩
      simp [kept, Ne.symm different]

/-! ### Changes of a table -/

/-- The creation of a rule, with the number that was handed out, or the deletion of a number. -/
inductive RuleChange
  | created (rule : Rule)
  | deleted (id : Int)
  deriving DecidableEq

/-- The rule that a change creates. -/
def RuleChange.created? : RuleChange → Option Rule
  | created rule => some rule
  | deleted _ => none

/-- The rules that are created in a history, the earliest first. -/
def creations (history : List RuleChange) : List Rule :=
  history.filterMap RuleChange.created?

theorem creations_concat (history : List RuleChange) (change : RuleChange) :
    creations (history ++ [change]) = creations history ++ change.created?.toList := by
  rw [creations, List.filterMap_append]
  cases change <;> rfl

namespace RuleTable

/-- The table behind a call that is answered. -/
def apply (table : RuleTable) : RuleCall → RuleTable
  | .create text list => (table.create text list).2
  | .delete id => table.delete id
  | .ofList _ | .find _ _ => table

/-- What a call that is answered changes. -/
def changes (table : RuleTable) : RuleCall → List RuleChange
  | .create text list => [.created ⟨(table.create text list).1, text, list⟩]
  | .delete id => [.deleted id]
  | .ofList _ | .find _ _ => []

/-- What the calls of a journal, the latest first, make of an empty table. -/
def replay : List RuleCall → RuleTable
  | [] => .empty
  | call :: earlier => (replay earlier).apply call

end RuleTable

/-- What the calls of a journal change on the way. -/
def changesOf : List RuleCall → List RuleChange
  | [] => []
  | call :: earlier => changesOf earlier ++ (RuleTable.replay earlier).changes call

namespace RuleTable

/-- A table agrees with the changes that were made to it since it was empty. -/
structure Recalls (table : RuleTable) (history : List RuleChange) : Prop where
  /-- The table would be numbered as well if no rule had been deleted. -/
  undeleted : Numbered ⟨creations history, table.nextId⟩
  nextId_eq : table.nextId = (creations history).length + 1
  sublist : table.rules.Sublist (creations history)
  mem_iff : ∀ rule,
    rule ∈ table.rules ↔ StandsIn history (.created rule) (.deleted rule.id)

namespace Recalls

variable {table : RuleTable} {history : List RuleChange}

theorem empty : RuleTable.empty.Recalls [] where
  undeleted := .empty
  nextId_eq := rfl
  sublist := .slnil
  mem_iff rule := by simp [RuleTable.empty, StandsIn]

theorem create (recalls : table.Recalls history) (text : String) (list : ListKind) :
    (table.create text list).2.Recalls (history ++ [.created ⟨table.nextId, text, list⟩]) where
  undeleted := by
    rw [creations_concat]
    exact recalls.undeleted.create text list
  nextId_eq := by
    change table.nextId + 1 = _
    rw [creations_concat, recalls.nextId_eq]
    simp [RuleChange.created?]
  sublist := by
    rw [creations_concat]
    exact recalls.sublist.append (List.Sublist.refl _)
  mem_iff rule := by
    rw [standsIn_concat, ← recalls.mem_iff]
    simp [RuleTable.create, or_comm, eq_comm]

theorem delete (recalls : table.Recalls history) (id : Int) :
    (table.delete id).Recalls (history ++ [.deleted id]) := by
  have same : creations (history ++ [.deleted id]) = creations history := by
    rw [creations_concat]
    exact List.append_nil _
  refine ⟨same ▸ recalls.undeleted, same ▸ recalls.nextId_eq, ?_, ?_⟩
  · rw [same]
    exact List.filter_sublist.trans recalls.sublist
  · intro rule
    rw [standsIn_concat, ← recalls.mem_iff]
    simp [RuleTable.delete, @eq_comm _ id]

/-- A table that agrees with the changes made to it agrees with those of one more call. -/
theorem apply (recalls : table.Recalls history) (call : RuleCall) :
    (table.apply call).Recalls (history ++ table.changes call) := by
  cases call with
  | create text list => exact recalls.create text list
  | delete id => exact recalls.delete id
  | ofList list => exact (List.append_nil history).symm ▸ recalls
  | find text list => exact (List.append_nil history).symm ▸ recalls

theorem numbered (recalls : table.Recalls history) : table.Numbered :=
  ⟨recalls.undeleted.ascending.sublist recalls.sublist,
    fun rule stored => recalls.undeleted.lt_nextId rule (recalls.sublist.subset stored)⟩

/-- What is found among the stored rules is in the order of creation. -/
theorem filter (recalls : table.Recalls history) (sought : Rule → Prop) [DecidablePred sought] :
    (table.rules.filter sought).Sublist (creations history) ∧
      ∀ rule, rule ∈ table.rules.filter sought ↔
        StandsIn history (.created rule) (.deleted rule.id) ∧ sought rule := by
  refine ⟨List.filter_sublist.trans recalls.sublist, fun rule => ?_⟩
  rw [List.mem_filter, recalls.mem_iff, decide_eq_true_iff]

end Recalls

/-- The table that the calls of a journal lead to agrees with what they changed. -/
theorem recalls_replay (journal : List RuleCall) : (replay journal).Recalls (changesOf journal) := by
  induction journal with
  | nil => exact .empty
  | cons call earlier inductionHypothesis => exact inductionHypothesis.apply call

/-- A deletion takes the one rule with the number out of the table, or there is none and the
table stays as it is. -/
theorem Numbered.delete_cases {table : RuleTable} (numbered : table.Numbered) (id : Int) :
    (∃ before rule behind, table.rules = before ++ rule :: behind ∧ rule.id = id ∧
      table.delete id = { table with rules := before ++ behind }) ∨
    (∀ rule ∈ table.rules, rule.id ≠ id) ∧ table.delete id = table := by
  by_cases present : ∃ rule ∈ table.rules, rule.id = id
  · obtain ⟨rule, stored, rfl⟩ := present
    obtain ⟨before, behind, split⟩ := List.append_of_mem stored
    have ascending := numbered.ascending
    rw [split, List.pairwise_append, List.pairwise_cons] at ascending
    obtain ⟨-, ⟨below, -⟩, above⟩ := ascending
    refine .inl ⟨before, rule, behind, split, rfl, congrArg (RuleTable.mk · table.nextId) ?_⟩
    -- All other numbers are smaller or larger, so the filter stops this rule only.
    have early : before.filter (fun other => other.id ≠ rule.id) = before :=
      List.filter_eq_self.2 fun other member =>
        decide_eq_true (Int.ne_of_lt (above other member rule List.mem_cons_self))
    have late : behind.filter (fun other => other.id ≠ rule.id) = behind :=
      List.filter_eq_self.2 fun other member => decide_eq_true (Int.ne_of_gt (below other member))
    rw [split, List.filter_append, early, List.filter_cons_of_neg (by simp), late]
  · have absent : ∀ rule ∈ table.rules, rule.id ≠ id :=
      fun rule stored same => present ⟨rule, stored, same⟩
    refine .inr ⟨absent, congrArg (RuleTable.mk · table.nextId) ?_⟩
    exact List.filter_eq_self.2 fun rule stored => decide_eq_true (absent rule stored)

end RuleTable

namespace RuleStore

/-! ### Runs of a store -/

/-- A store behind some operations. -/
def serveAll (store : RuleStore) (operations : List Operation) : RuleStore :=
  operations.foldl (fun store operation => (store.serve operation).2) store

/-- What no single call breaks is not broken by any run. -/
theorem Stable.serveAll {Invariant : RuleStore → Prop} (stable : Stable Invariant)
    {store : RuleStore} (holds : Invariant store) (operations : List Operation) :
    Invariant (store.serveAll operations) := by
  induction operations generalizing store with
  | nil => exact holds
  | cons operation rest inductionHypothesis =>
      exact inductionHypothesis (stable.serve holds operation)

/-- No call fails, and the journal leads to the table. -/
structure Traced (store : RuleStore) : Prop where
  reliable : store.Reliable
  table_eq : store.table = .replay store.journal

variable {store : RuleStore}

theorem traced_new : (RuleStore.new .never).Traced := ⟨rfl, rfl⟩

/-- A call that does its work on the table leaves a journal that leads to the table. -/
theorem Traced.perform (traced : store.Traced) {Answer : Type} (call : RuleCall)
    {effect : RuleTable → Answer × RuleTable} (does : ∀ table, (effect table).2 = table.apply call) :
    (store.perform call effect).2.Traced := by
  rw [traced.reliable.perform_eq]
  refine ⟨traced.reliable, ?_⟩
  rw [does, traced.table_eq]
  rfl

theorem stable_traced : Stable Traced where
  create text list traced := traced.perform (.create text list) fun _ => rfl
  delete id traced := traced.perform (.delete id) fun _ => rfl
  ofList list traced := traced.perform (.ofList list) fun _ => rfl
  find text list traced := traced.perform (.find text list) fun _ => rfl

/-- The table of a store that never fails agrees with its journal. -/
theorem Traced.recalls (traced : store.Traced) : store.table.Recalls (changesOf store.journal) :=
  traced.table_eq ▸ RuleTable.recalls_replay store.journal

/-- **Numbers are never reused, and they order the store.**  After any run of a new store that
never fails, the numbers that were handed out ascend, each of them was handed out once, and the
next one is above them all.  The stored rules are those that were not deleted since their
creation, in the order of their creation.  A deletion takes away the one rule with its number or
nothing, and a lookup finds exactly the rules that it asks for, in the order of their creation. -/
theorem numbers_never_reused (operations : List Operation) :
    let store := (RuleStore.new .never).serveAll operations
    let history := changesOf store.journal
    let created := creations history
    let Stands := fun rule => StandsIn history (.created rule) (.deleted rule.id)
    store.table.rules.Pairwise (fun earlier later => earlier.id < later.id) ∧
    store.table.rules.Sublist created ∧ (∀ rule, rule ∈ store.table.rules ↔ Stands rule) ∧
    created.Pairwise (fun earlier later => earlier.id < later.id) ∧
    (∀ rule ∈ created, rule.id < store.table.nextId) ∧
    store.table.nextId = created.length + 1 ∧
    (∀ text list, (store.create text list).1 = .ok store.table.nextId ∧
      changesOf (store.create text list).2.journal =
        history ++ [.created ⟨store.table.nextId, text, list⟩]) ∧
    (∀ id, (store.delete id).1 = .ok () ∧
      ((∃ before rule behind, store.table.rules = before ++ rule :: behind ∧ rule.id = id ∧
          (store.delete id).2.table = { store.table with rules := before ++ behind }) ∨
        (∀ rule ∈ store.table.rules, rule.id ≠ id) ∧ (store.delete id).2.table = store.table)) ∧
    (∀ list, ∃ found, (store.ofList list).1 = .ok found ∧ found.Sublist created ∧
      ∀ rule, rule ∈ found ↔ Stands rule ∧ rule.list = list) ∧
    ∀ text list, ∃ found, (store.find text list).1 = .ok found ∧ found.Sublist created ∧
      ∀ rule, rule ∈ found ↔ Stands rule ∧ rule.list = list ∧ rule.text = text := by
  intro store history created Stands
  have traced : store.Traced := stable_traced.serveAll traced_new operations
  have recalls : store.table.Recalls history := traced.recalls
  have numbered := recalls.numbered
  refine ⟨numbered.ascending, recalls.sublist, recalls.mem_iff, recalls.undeleted.ascending,
    recalls.undeleted.lt_nextId, recalls.nextId_eq, fun text list => ?_, fun id => ?_, fun list => ?_,
    fun text list => ?_⟩
  · rw [create, traced.reliable.perform_eq]
    refine ⟨rfl, ?_⟩
    change changesOf store.journal ++ (RuleTable.replay store.journal).changes _ = _
    rw [← traced.table_eq]
    rfl
  · rw [delete, traced.reliable.perform_eq]
    exact ⟨rfl, numbered.delete_cases id⟩
  · rw [ofList, traced.reliable.perform_eq]
    exact ⟨_, rfl, recalls.filter fun rule => rule.list = list⟩
  · rw [find, traced.reliable.perform_eq]
    exact ⟨_, rfl, recalls.filter fun rule => rule.list = list ∧ rule.text = text⟩

/-- A number that was deleted is not handed out again, and a number that is deleted before it is
handed out stands for a rule later. -/
example :
    ((RuleStore.new .never).serveAll [.delete 2, .create "10.0.0.1" .white, .delete 1,
      .create "10.0.0.1" .black]).table = ⟨[⟨2, "10.0.0.1", .black⟩], 3⟩ := by
  decide

end RuleStore

end LoginThrottle
