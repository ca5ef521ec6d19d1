import LoginThrottle.Config

/-!
# Sound configurations

A configuration is accepted when its rate, its cost and its sweeps make sense and no two of
its limits, each of some capacity, are for one dimension.

## Main Statements

* `limitFlaw?_eq_none_iff`: which limits have no flaw
* `Config.flaw?_eq_none_iff`: which configurations have none
* `Config.validate_eq_ok_iff`: which configurations are accepted
-/

namespace LoginThrottle

/-- Limits have no flaw behind others if their dimensions are new, distinct and properly named,
and their capacities are positive. -/
theorem limitFlaw?_eq_none_iff (seen : List String) (limits : List Limit) :
    limitFlaw? seen limits = none ↔
      (∀ limit ∈ limits, limit.dimension ∉ seen ∧ 0 < limit.capacity ∧
        isDimensionName limit.dimension = true) ∧
      (limits.map Limit.dimension).Nodup := by
  induction limits generalizing seen with
  | nil => simp [limitFlaw?]
  | cons limit rest inductionHypothesis =>
      rw [limitFlaw?, List.map_cons, List.nodup_cons, List.forall_mem_cons]
      by_cases repeated : limit.dimension ∈ seen
      · simp [repeated]
      · by_cases empty : limit.capacity = 0
        · simp [repeated, empty]
        · cases proper : isDimensionName limit.dimension with
          | false => simp [repeated, empty]
          | true =>
              simp only [List.contains_iff_mem, repeated, if_false, empty, Bool.not_true,
                Bool.false_eq_true, not_false_eq_true, Nat.pos_of_ne_zero empty, true_and]
              -- Behind this limit its name counts among those that were seen.
              rw [inductionHypothesis]
              simp only [List.mem_cons, not_or]
              constructor
              · rintro ⟨each, distinct⟩
                refine ⟨fun other member => ⟨(each other member).1.2, (each other member).2⟩, ?_,
                  distinct⟩
                intro member
                obtain ⟨other, later, same⟩ := List.mem_map.1 member
                exact (each other later).1.1 same
              · rintro ⟨each, apart, distinct⟩
                refine ⟨fun other member => ⟨⟨?_, (each other member).1⟩, (each other member).2⟩,
                  distinct⟩
                intro same
                exact apart (List.mem_map.2 ⟨other, member, same⟩)

namespace Config

theorem flaw?_eq_none_iff (config : Config) :
    config.flaw? = none ↔
      0 < config.limiter.refill.windowSeconds ∧ 0 < config.limiter.requestCost ∧
      (config.limiter.sweeping.enabled = true → 0 < config.limiter.sweeping.intervalSeconds) ∧
      (∀ limit ∈ config.limits, 0 < limit.capacity ∧ isDimensionName limit.dimension = true) ∧
      (config.limits.map Limit.dimension).Nodup := by
  have limitsSound := limitFlaw?_eq_none_iff [] config.limits
  simp only [List.not_mem_nil, not_false_eq_true, true_and] at limitsSound
  unfold flaw?
  by_cases window : config.limiter.refill.windowSeconds = 0
  · simp [window]
  · by_cases free : config.limiter.requestCost = 0
    · simp [window, free]
    · by_cases interval :
        config.limiter.sweeping.enabled = true ∧ config.limiter.sweeping.intervalSeconds = 0
      · simp [window, free, interval]
      · have spaced : config.limiter.sweeping.enabled = true →
            0 < config.limiter.sweeping.intervalSeconds :=
          fun enabled => Nat.pos_of_ne_zero fun zero => interval ⟨enabled, zero⟩
        rw [if_neg window, if_neg free, if_neg interval, limitsSound]
        simp only [Nat.pos_of_ne_zero window, Nat.pos_of_ne_zero free, true_and]
        exact ⟨fun sound => ⟨spaced, sound⟩, fun sound => sound.2⟩

/-- A configuration is accepted as it is, or not at all. -/
theorem validate_eq_ok_iff (config other : Config) :
    config.validate = .ok other ↔ config.flaw? = none ∧ other = config := by
  unfold validate
  cases config.flaw? with
  | none => simp [eq_comm]
  | some flaw => simp

end Config

end LoginThrottle
