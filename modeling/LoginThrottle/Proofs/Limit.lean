import LoginThrottle.Limit

/-!
# The limit that counts

A list of limits may have several for one dimension, and the last of them counts.

## Main Definitions

* `Limit.capacityOf?`: the capacity that the limits give to a dimension

## Main Statements

* `Limit.capacityOf?_select`: a fetch gives the dimensions that were asked for the capacities
  that they have in the store, and no others
-/

namespace LoginThrottle

namespace Limit

/-- The capacity of the last limit for a dimension. -/
def capacityOf? (limits : List Limit) (dimension : String) : Option Nat :=
  (limits.reverse.find? fun limit => limit.dimension == dimension).map Limit.capacity

theorem exists_of_capacityOf? {limits : List Limit} {dimension : String} {capacity : Nat}
    (limited : capacityOf? limits dimension = some capacity) :
    ∃ limit ∈ limits, limit.dimension = dimension ∧ limit.capacity = capacity := by
  rw [capacityOf?, Option.map_eq_some_iff] at limited
  obtain ⟨limit, found, same⟩ := limited
  have named := List.find?_some found
  exact ⟨limit, List.mem_reverse.1 (List.mem_of_find?_eq_some found), eq_of_beq named, same⟩

/-- A fetch gives the dimensions that were asked for the capacities that they have in the
store, and no others. -/
theorem capacityOf?_select (limits : List Limit) (dimensions : List String) (dimension : String) :
    capacityOf? (select limits dimensions) dimension =
      if dimension ∈ dimensions then capacityOf? limits dimension else none := by
  rw [capacityOf?, select, ← List.filter_reverse, List.find?_filter]
  split
  · next asked =>
      have same : (fun limit : Limit => decide (dimensions.contains limit.dimension = true ∧
          (limit.dimension == dimension) = true)) = fun limit => limit.dimension == dimension := by
        funext limit
        by_cases named : limit.dimension = dimension
        · simp [named, asked]
        · simp [named]
      rw [same, capacityOf?]
  · next unasked =>
      rw [Option.map_eq_none_iff, List.find?_eq_none]
      intro limit _ both
      simp only [decide_eq_true_eq, List.contains_iff_mem, beq_iff_eq] at both
      exact unasked (both.2 ▸ both.1)

end Limit

theorem LimitStore.eq_select_of_answer {store : LimitStore} {dimensions : List String}
    {limits : List Limit} (answered : store.answer dimensions = .ok limits) :
    Limit.select store.limits dimensions = limits := by
  unfold answer at answered
  split at answered
  · cases answered
  · exact Except.ok.inj answered

/-- A fetch that is counted leaves the limits that it was answered with. -/
theorem LimitStore.select_counted_of_answer {store : LimitStore} {dimensions : List String}
    {limits : List Limit} (answered : store.answer dimensions = .ok limits) :
    Limit.select store.counted.limits dimensions = limits :=
  store.eq_select_of_answer answered

end LoginThrottle
