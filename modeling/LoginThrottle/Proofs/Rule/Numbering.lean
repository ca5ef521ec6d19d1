import LoginThrottle.Proofs.Rule.Removal
import Mathlib.Data.List.Nodup

/-!
# The numbers of rules

Rules are numbered in the order in which they are stored, and the next number is above all of
them.  So a number belongs to one rule at most, and deleting rules by their numbers deletes
no others.

## Main Definitions

* `RuleTable.Numbered`: the numbers ascend and stay below the next one
* `RuleTable.without`: a table without the rules that have a text on a list
* `RuleTable.lacking`: a table without some rules

## Main Statements

* `RuleTable.Numbered.deleteIds_eq`: deletion by numbers is deletion of the rules that have them
* `RuleStore.numbered_serve`: every operation leaves the rules of a store numbered
* `RuleStore.Reliable.table_remove`: taking a text off a list deletes its rules and no others
-/

namespace LoginThrottle

namespace RuleTable

/-- The numbers of the rules ascend, and the next number is above all of them. -/
structure Numbered (table : RuleTable) : Prop where
  ascending : table.rules.Pairwise fun first second => first.id < second.id
  lt_nextId : ∀ rule ∈ table.rules, rule.id < table.nextId

/-- The table without the rules that have exactly the given text on a list. -/
def without (table : RuleTable) (text : String) (list : ListKind) : RuleTable :=
  { table with rules := table.rules.filter fun rule => ¬ (rule.list = list ∧ rule.text = text) }

/-- The table without some rules. -/
def lacking (table : RuleTable) (gone : List Rule) : RuleTable :=
  { table with rules := table.rules.filter fun rule => rule ∉ gone }

theorem mem_find_iff {table : RuleTable} {text : String} {list : ListKind} {rule : Rule} :
    rule ∈ table.find text list ↔ rule ∈ table.rules ∧ rule.list = list ∧ rule.text = text := by
  rw [find, List.mem_filter, decide_eq_true_iff]

/-- Without all rules that have a text on a list, none of them is left. -/
theorem lacking_find (table : RuleTable) (text : String) (list : ListKind) :
    table.lacking (table.find text list) = table.without text list := by
  refine congrArg (RuleTable.mk · table.nextId) (List.filter_congr ?_)
  intro rule known
  rw [decide_eq_decide, mem_find_iff]
  exact not_congr (and_iff_right known)

namespace Numbered

variable {table : RuleTable}

theorem empty : RuleTable.empty.Numbered :=
  ⟨List.Pairwise.nil, fun _ none => absurd none List.not_mem_nil⟩

theorem create (numbered : table.Numbered) (text : String) (list : ListKind) :
    (table.create text list).2.Numbered := by
  constructor
  · refine List.pairwise_append.2 ⟨numbered.ascending, List.pairwise_singleton _ _, ?_⟩
    intro earlier known latest new
    rw [List.mem_singleton.1 new]
    exact numbered.lt_nextId earlier known
  · intro rule member
    change rule.id < table.nextId + 1
    rcases List.mem_append.1 member with known | new
    · exact Int.lt_add_one_of_le (Int.le_of_lt (numbered.lt_nextId rule known))
    · rw [List.mem_singleton.1 new]
      exact Int.lt_succ table.nextId

/-- A table stays numbered when rules are dropped. -/
theorem filter (numbered : table.Numbered) (keep : Rule → Bool) :
    RuleTable.Numbered { table with rules := table.rules.filter keep } :=
  ⟨numbered.ascending.filter keep,
    fun rule kept => numbered.lt_nextId rule (List.mem_filter.1 kept).1⟩

theorem delete (numbered : table.Numbered) (id : Int) : (table.delete id).Numbered :=
  numbered.filter _

/-- A number belongs to one rule at most. -/
theorem eq_of_id_eq (numbered : table.Numbered) {first second : Rule}
    (known : first ∈ table.rules) (knownToo : second ∈ table.rules)
    (same : first.id = second.id) : first = second := by
  have distinct : (table.rules.map Rule.id).Nodup :=
    List.pairwise_map.2 (numbered.ascending.imp fun {_ _} less => Int.ne_of_lt less)
  exact List.inj_on_of_nodup_map distinct known knownToo same

/-- Deleting the numbers of some rules deletes these rules and no others. -/
theorem deleteIds_eq (numbered : table.Numbered) {gone : List Rule}
    (known : ∀ rule ∈ gone, rule ∈ table.rules) :
    table.deleteIds (gone.map Rule.id) = table.lacking gone := by
  refine congrArg (RuleTable.mk · table.nextId) (List.filter_congr ?_)
  intro rule stored
  rw [decide_eq_decide, List.mem_map]
  refine not_congr ⟨?_, fun among => ⟨rule, among, rfl⟩⟩
  rintro ⟨other, among, same⟩
  exact numbered.eq_of_id_eq (known other among) stored same ▸ among

end Numbered

end RuleTable

namespace RuleStore

variable {store : RuleStore}

theorem kept_numbered : Kept fun store => store.table.Numbered :=
  ⟨fun _ numbered => numbered, fun text list numbered => numbered.create text list,
    fun id numbered => numbered.delete id⟩

/-- Every operation leaves the rules of a store numbered, whichever calls fail. -/
theorem numbered_serve (numbered : store.table.Numbered) (operation : Operation) :
    (store.serve operation).2.table.Numbered :=
  kept_numbered.stable.serve numbered operation

/-- Taking a text off a list deletes the rules that have it there, and no others. -/
theorem Reliable.table_remove (reliable : store.Reliable) (numbered : store.table.Numbered)
    (text : String) (list : ListKind) :
    (store.remove text list).2.table = store.table.without text list := by
  have known : ∀ rule ∈ store.table.find text list, rule ∈ store.table.rules :=
    fun _ found => (RuleTable.mem_find_iff.1 found).1
  rw [← store.table.lacking_find, ← numbered.deleteIds_eq known]
  exact (reliable.remove_eq text list).2

end RuleStore

end LoginThrottle
