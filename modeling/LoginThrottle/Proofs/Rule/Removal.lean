import LoginThrottle.Proofs.Rule.Store

/-!
# Taking texts off a list that never fails

A store whose calls do not fail loses every rule with the text that is taken off, and it
gains none.

## Main Definitions

* `RuleStore.Reliable`: no call fails

## Main Statements

* `RuleStore.outage_serve`: no operation changes when calls fail
* `RuleStore.mem_of_mem_remove`: what is left once a text was taken off a list
-/

namespace LoginThrottle

namespace RuleStore

/-! ### When calls fail -/

theorem kept_outage (outage : RuleOutage) : Kept fun store => store.outage = outage :=
  ⟨fun _ same => same, fun _ _ same => same, fun _ same => same⟩

theorem outage_isListed (store : RuleStore) (text : String) (list : ListKind) :
    (store.isListed text list).2.outage = store.outage :=
  (kept_outage store.outage).stable.isListed rfl text list

theorem outage_remove (store : RuleStore) (text : String) (list : ListKind) :
    (store.remove text list).2.outage = store.outage :=
  (kept_outage store.outage).stable.remove rfl text list

/-- No operation changes when calls fail. -/
theorem outage_serve (store : RuleStore) (operation : Operation) :
    (store.serve operation).2.outage = store.outage :=
  (kept_outage store.outage).stable.serve rfl operation

/-! ### Stores that never fail -/

/-- No call fails. -/
def Reliable (store : RuleStore) : Prop :=
  store.outage = .never

variable {store : RuleStore}

theorem Reliable.fails_eq (reliable : store.Reliable) (call : RuleCall) :
    store.fails call = false := by
  rw [fails, show store.outage = .never from reliable]
  rfl

theorem Reliable.entered (reliable : store.Reliable) (call : RuleCall) :
    (store.entered call).Reliable := reliable

/-- A call that does not fail leaves its effect on the table. -/
theorem Reliable.perform_eq {Answer : Type} (reliable : store.Reliable) (call : RuleCall)
    (effect : RuleTable → Answer × RuleTable) :
    store.perform call effect =
      (.ok (effect store.table).1,
        { store.entered call with table := (effect store.table).2 }) := by
  have answers : store.outage store.journal call = false := reliable.fails_eq call
  simp [perform, answers, RuleStore.entered]

/-- Deleting rules one by one succeeds. -/
theorem Reliable.deletes_eq (reliable : store.Reliable) {rules : List Rule}
    {ended : Except Fault Unit × RuleStore} (deletes : Deletes store rules ended) :
    ended.1 = .ok () ∧ ended.2.table = store.table.deleteIds (rules.map Rule.id) := by
  cases deletes with
  | all left _ => exact ⟨rfl, left⟩
  | some done short deletion refused left _ =>
      obtain ⟨journal, failing⟩ := refused
      rw [show store.outage = .never from reliable] at failing
      cases failing

/-- Taking a text off a list succeeds if there are rules with it, and it leaves the rules with
other numbers than theirs. -/
theorem Reliable.remove_eq (reliable : store.Reliable) (text : String) (list : ListKind) :
    (store.remove text list).1 =
        (if store.table.find text list = [] then .error .ruleNotFound else .ok ()) ∧
      (store.remove text list).2.table =
        { store.table with
          rules := store.table.rules.filter fun kept =>
            kept.id ∉ (store.table.find text list).map Rule.id } := by
  have ends := store.removes text list
  generalize store.remove text list = ended at ends
  cases ends with
  | unsearched failing =>
      rw [reliable.fails_eq] at failing
      cases failing
  | missing answers none =>
      rw [if_pos none, none]
      exact ⟨rfl, (store.table.deleteIds_nil).symm⟩
  | deleting answers found deletes =>
      rw [if_neg found]
      exact (reliable.entered _).deletes_eq deletes

/-- What is left once a text was taken off a list was there before, and it is another text or
on the other list. -/
theorem Reliable.mem_of_mem_remove (reliable : store.Reliable) {text : String} {list : ListKind}
    {kept : Rule} (left : kept ∈ (store.remove text list).2.table.rules) :
    kept ∈ store.table.rules ∧ ¬ (kept.list = list ∧ kept.text = text) := by
  rw [(reliable.remove_eq text list).2] at left
  obtain ⟨before, spared⟩ := List.mem_filter.1 left
  refine ⟨before, ?_⟩
  intro same
  have found : kept ∈ store.table.find text list :=
    List.mem_filter.2 ⟨before, decide_eq_true same⟩
  exact of_decide_eq_true spared (List.mem_map_of_mem found)

end RuleStore

end LoginThrottle
