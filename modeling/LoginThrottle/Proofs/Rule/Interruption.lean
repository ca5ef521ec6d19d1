import LoginThrottle.Proofs.Rule.Numbering

/-!
# Operations on the lists that fail half-way

Taking a text off a list deletes its rules one by one, so a call that fails may leave some of
them behind.  Those that are gone then are the first ones, and nothing else is lost.  So it is
enough to try again.

## Main Definitions

* `RuleStore.Recovered`: the calls that take a text off a list do not fail any more

## Main Statements

* `RuleTable.Numbered.find_lacking_take`: once the first rules with a text are gone, the others
  are found
* `RuleStore.Recovered.remove_eq`: a removal that no call interrupts
* `RuleStore.failures_retryable`: what each operation leaves behind when it fails, and that a
  removal can be tried again
-/

namespace LoginThrottle

namespace RuleTable

variable {table : RuleTable} {text : String} {list : ListKind}

/-- Rules with the text are not among those without it. -/
theorem without_lacking {gone : List Rule} (among : ∀ rule ∈ gone, rule ∈ table.find text list) :
    (table.lacking gone).without text list = table.without text list := by
  refine congrArg (RuleTable.mk · table.nextId) ?_
  rw [lacking, List.filter_filter]
  refine List.filter_congr fun rule _ => ?_
  rw [← Bool.decide_and, decide_eq_decide]
  refine and_iff_left_of_imp fun other gone => other ?_
  exact (mem_find_iff.1 (among rule gone)).2

namespace Numbered

theorem nodup_rules (numbered : table.Numbered) : table.rules.Nodup :=
  numbered.ascending.imp fun {_ _} less same => Int.ne_of_lt less (congrArg Rule.id same)

/-- Once the first rules with a text are gone, the others are found. -/
theorem find_lacking_take (numbered : table.Numbered) (text : String) (list : ListKind)
    (count : Nat) :
    (table.lacking ((table.find text list).take count)).find text list =
      (table.find text list).drop count := by
  have distinct : (table.find text list).Nodup := numbered.nodup_rules.filter _
  have swapped : (table.lacking ((table.find text list).take count)).find text list =
      (table.find text list).filter fun rule => rule ∉ (table.find text list).take count := by
    simp only [find, lacking, List.filter_filter, Bool.and_comm]
  rw [swapped]
  generalize table.find text list = found at distinct
  -- No rule is there twice, so none of the first ones comes again.
  have apart : (found.take count).Disjoint (found.drop count) :=
    List.disjoint_take_drop distinct (Nat.le_refl count)
  calc found.filter (fun rule => rule ∉ found.take count)
      = (found.take count ++ found.drop count).filter fun rule => rule ∉ found.take count := by
        rw [List.take_append_drop]
    _ = found.drop count := by
        rw [List.filter_append, List.filter_eq_nil_iff.2, List.nil_append,
          List.filter_eq_self.2]
        · exact fun rule later => decide_eq_true fun early => apart early later
        · exact fun rule early => by simp only [early, not_true_eq_false, decide_false,
            Bool.false_eq_true, not_false_eq_true]

end Numbered

end RuleTable

namespace RuleStore

variable {store : RuleStore} {text : String} {list : ListKind}

/-- The search for a text on a list and deletions do not fail, whatever else does. -/
def Recovered (store : RuleStore) (text : String) (list : ListKind) : Prop :=
  ∀ journal call, call = .find text list ∨ call.isDelete = true →
    store.outage journal call = false

theorem recovered_never (store : RuleStore) (text : String) (list : ListKind) :
    RuleStore.Recovered { store with outage := .never } text list :=
  fun _ _ _ => rfl

/-- A removal that no call interrupts takes all rules with the text off the list. -/
theorem Recovered.remove_eq (recovered : store.Recovered text list)
    (numbered : store.table.Numbered) (found : store.table.find text list ≠ []) :
    (store.remove text list).1 = .ok () ∧
      (store.remove text list).2.table = store.table.without text list := by
  have ends := store.removes text list
  generalize store.remove text list = ended at ends
  cases ends with
  | unsearched failing =>
      rw [fails, recovered _ _ (.inl rfl)] at failing
      cases failing
  | missing answers none => exact absurd none found
  | deleting answers found deletes =>
      cases deletes with
      | all left asked =>
          refine ⟨rfl, left.trans ?_⟩
          rw [← store.table.lacking_find]
          exact numbered.deleteIds_eq fun rule member => (RuleTable.mem_find_iff.1 member).1
      | some done short deletion refused left asked =>
          obtain ⟨journal, failing⟩ := refused
          rw [entered, recovered _ _ (.inr deletion)] at failing
          cases failing

theorem remove_of_fails (failing : store.fails (.find text list) = true) :
    store.remove text list =
      (.error (RuleCall.find text list).fault, store.entered (.find text list)) := by
  have ends := store.removes text list
  generalize store.remove text list = ended at ends
  cases ends with
  | unsearched _ => rfl
  | missing answers _ => exact absurd failing (Bool.eq_false_iff.1 answers)
  | deleting answers _ _ => exact absurd failing (Bool.eq_false_iff.1 answers)

/-- A removal that fails has asked for no deletion, or it has deleted the rules before the one
that it failed on and no others. -/
theorem remove_of_error (numbered : store.table.Numbered) {fault : Fault}
    (failed : (store.remove text list).1 = .error fault) :
    (store.remove text list).2.table = store.table ∧
        (store.remove text list).2.deletions = store.deletions ∨
      fault ≠ .ruleNotFound ∧ ∃ done < (store.table.find text list).length,
        (store.remove text list).2.deletions = store.deletions + (done + 1) ∧
        (store.remove text list).2.table =
          store.table.lacking ((store.table.find text list).take done) := by
  have ends := store.removes text list
  generalize store.remove text list = ended at ends failed ⊢
  cases ends with
  | unsearched failing => exact .inl ⟨rfl, rfl⟩
  | missing answers none => exact .inl ⟨rfl, rfl⟩
  | deleting answers found deletes =>
      cases deletes with
      | all left asked => cases failed
      | some done short deletion refused left asked =>
          have known : ∀ rule ∈ (store.table.find text list).take done,
              rule ∈ store.table.rules := fun rule member =>
            (RuleTable.mem_find_iff.1 (List.mem_of_mem_take member)).1
          refine .inr ⟨?_, done, short, asked, left.trans (numbered.deleteIds_eq known)⟩
          rw [← Except.error.inj failed]
          exact Fault.noConfusion

/-- After a removal that failed on one of its deletions another one comes to the same end as if
nothing had failed. -/
theorem remove_again (numbered : store.table.Numbered) {done : Nat}
    (short : done < (store.table.find text list).length) {again : RuleStore}
    (left : again.table = store.table.lacking ((store.table.find text list).take done))
    (recovered : again.Recovered text list) :
    (again.remove text list).1 = .ok () ∧
      (again.remove text list).2.table = store.table.without text list := by
  have numberedToo : again.table.Numbered := left ▸ numbered.filter _
  have found : again.table.find text list ≠ [] := by
    rw [left, numbered.find_lacking_take, Ne, List.drop_eq_nil_iff]
    exact Nat.not_le.2 short
  obtain ⟨succeeds, table_eq⟩ := recovered.remove_eq numberedToo found
  refine ⟨succeeds, table_eq.trans ?_⟩
  rw [left]
  exact RuleTable.without_lacking fun rule member => List.mem_of_mem_take member

theorem add_of_misspelled (store : RuleStore) (list : ListKind)
    (misspelled : AddressSet.read? text = none) :
    store.add text list = (.error (.invalidAddress text), store) := by
  unfold add
  rw [misspelled]

theorem table_add_of_error {fault : Fault} (failed : (store.add text list).1 = .error fault) :
    (store.add text list).2.table = store.table := by
  unfold add at failed ⊢
  cases spelled : AddressSet.read? text with
  | none => rfl
  | some set =>
      simp only [spelled, create, perform] at failed ⊢
      by_cases failing : store.outage store.journal (.create text list) = true
      · rw [if_pos failing]
      · rw [if_neg failing] at failed
        cases failed

theorem table_isListed (store : RuleStore) (text : String) (list : ListKind) :
    (store.isListed text list).2.table = store.table := by
  rw [isListed_eq]
  split <;> rfl

/-- **What fails can be tried again.**  Whichever calls of a store fail, a question changes no
rule, and neither does an addition that fails; a text that spells no addresses is refused before
any call is made.  A removal that finds no rule or cannot search for one changes none either.  One
that fails on a deletion has deleted the rules with the text that come before it, and no others.
Once these calls work again, the next removal leaves what a removal would have left if nothing
had failed. -/
theorem failures_retryable (store : RuleStore) (numbered : store.table.Numbered) (text : String)
    (list : ListKind) :
    let found := store.table.find text list
    let removal := store.remove text list
    (store.isListed text list).2.table = store.table ∧
    (∀ fault, (store.add text list).1 = .error fault →
      (store.add text list).2.table = store.table) ∧
    (AddressSet.read? text = none →
      store.add text list = (.error (.invalidAddress text), store)) ∧
    (removal.1 = .error .ruleNotFound → removal.2.table = store.table) ∧
    (store.fails (.find text list) = true →
      removal.1 = .error (RuleCall.find text list).fault ∧ removal.2.table = store.table) ∧
    ∀ fault, removal.1 = .error fault →
      removal.2.table = store.table ∧ removal.2.deletions = store.deletions ∨
      ∃ done < found.length, removal.2.deletions = store.deletions + (done + 1) ∧
        removal.2.table =
          { store.table with rules := store.table.rules.filter (· ∉ found.take done) } ∧
        ∀ again : RuleStore, again.table = removal.2.table → again.Recovered text list →
          let uninterrupted := { store with outage := .never }.remove text list
          (again.remove text list).1 = .ok () ∧ uninterrupted.1 = .ok () ∧
            (again.remove text list).2.table = uninterrupted.2.table := by
  intro found removal
  refine ⟨store.table_isListed text list, fun _ => table_add_of_error,
    store.add_of_misspelled list, ?_, ?_, ?_⟩
  · intro missing
    rcases remove_of_error numbered missing with ⟨untouched, -⟩ | ⟨other, -⟩
    · exact untouched
    · exact absurd rfl other
  · intro failing
    rw [show removal = _ from remove_of_fails failing]
    exact ⟨rfl, rfl⟩
  · intro fault failed
    rcases remove_of_error numbered failed with untouched | ⟨-, done, short, asked, left⟩
    · exact .inl untouched
    · refine .inr ⟨done, short, asked, left, fun again same recovered => ?_⟩
      have uninterrupted := (store.recovered_never text list).remove_eq numbered
        (List.ne_nil_of_length_pos (Nat.zero_lt_of_lt short))
      obtain ⟨succeeds, table_eq⟩ := remove_again numbered short (same.trans left) recovered
      exact ⟨succeeds, uninterrupted.1, table_eq.trans uninterrupted.2.symm⟩

/-- An address that is on the white list three times, in a store that fails after one deletion. -/
def copies : RuleStore where
  table := ⟨[⟨1, "10.0.0.1", .white⟩, ⟨2, "10.0.0.1", .black⟩, ⟨3, "10.0.0.1", .white⟩,
    ⟨5, "10.0.0.1", .white⟩], 6⟩
  outage := .ofNames [] (some 1)
  journal := []

/-- The removal deletes the first copy and fails on the second one.  When only additions fail, it
is tried again and leaves the other list. -/
theorem copies_retried :
    let removal := copies.remove "10.0.0.1" .white
    let again := { removal.2 with outage := .ofNames ["create"] none }
    copies.table.Numbered ∧ removal.1 = .error (.storage "delete failed") ∧
      removal.2.table.rules.map Rule.id = [2, 3, 5] ∧ again.Recovered "10.0.0.1" .white ∧
      (again.remove "10.0.0.1" .white).1 = .ok () ∧
      (again.remove "10.0.0.1" .white).2.table = ⟨[⟨2, "10.0.0.1", .black⟩], 6⟩ := by
  intro removal again
  have numbered : copies.table.Numbered := ⟨by decide, by decide⟩
  have failed : removal.1 = .error (.storage "delete failed") := by decide +kernel
  have recovered : again.Recovered "10.0.0.1" .white := by
    rintro journal call (rfl | deletion)
    · rfl
    · cases call with
      | delete id => rfl
      | _ => cases deletion
  obtain ⟨-, -, -, -, -, interrupted⟩ := copies.failures_retryable numbered "10.0.0.1" .white
  rcases interrupted _ failed with ⟨-, unasked⟩ | ⟨done, -, asked, left, retried⟩
  · exact absurd unasked (by decide +kernel)
  · obtain rfl : done = 1 := by
      have twice : removal.2.deletions = 0 + 2 := by decide +kernel
      exact Nat.succ.inj (Nat.add_left_cancel (asked.symm.trans twice))
    obtain ⟨succeeds, -, same⟩ := retried again rfl recovered
    refine ⟨numbered, failed, ?_, recovered, succeeds, same.trans (by decide +kernel)⟩
    rw [left]
    decide +kernel

end RuleStore

end LoginThrottle
