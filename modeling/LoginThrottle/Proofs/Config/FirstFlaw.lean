import LoginThrottle.Proofs.Config
import Mathlib.Data.List.Nodup

/-!
# The first flaw of a configuration

A configuration that is refused is refused for one reason, although it may have several flaws.
The reason is the first of them: the window, the cost and the interval come before the limits,
and the limits come in the order in which they are listed.

## Main Definitions

* `Config.IsSound`: what a configuration must be like
* `Limit.Defect`: what is wrong with a limit that stands behind others
* `DefectAt`: the defect of the limit at a position
* `Config.FirstFlaw`: the flaw that a configuration is refused for

## Main Statements

* `limitFlaw?_eq_some_iff`: the flaw of some limits is the defect at the least position that has
  one
* `ConfigFlaw.message_injective`: no two flaws are described alike
* `Config.validate_reports_first`: exactly the sound configurations are accepted, and others are
  refused for their first flaw
-/

namespace LoginThrottle

/-! ### Defects of limits -/

/-- What is wrong with a limit that stands behind limits for some dimensions.  Of several things
the first counts: the dimension comes again, the capacity is zero, the name is improper. -/
inductive Limit.Defect (seen : List String) (limit : Limit) : ConfigFlaw → Prop
  | duplicate (again : limit.dimension ∈ seen) :
      Defect seen limit (.duplicateLimit limit.dimension)
  | empty (new : limit.dimension ∉ seen) (empty : limit.capacity = 0) :
      Defect seen limit (.emptyCapacity limit.dimension)
  | misnamed (new : limit.dimension ∉ seen) (positive : 0 < limit.capacity)
      (improper : limit.dimension = "" ∨ keySeparator ∈ limit.dimension.toList) :
      Defect seen limit (.badDimension limit.dimension)

/-- The limit at a position has a defect, behind limits for the dimensions `seen` and for those
of the limits in front of it. -/
def DefectAt (seen : List String) (limits : List Limit) (position : Nat) (flaw : ConfigFlaw) :
    Prop :=
  ∃ limit, limits[position]? = some limit ∧
    limit.Defect ((limits.take position).map Limit.dimension ++ seen) flaw

/-- A name is improper if it is empty or has a separator in it. -/
theorem isDimensionName_eq_false_iff (name : String) :
    isDimensionName name = false ↔ name = "" ∨ keySeparator ∈ name.toList := by
  by_cases empty : name = "" <;> simp [isDimensionName, empty]

namespace Limit

variable {seen others : List String} {limit : Limit} {flaw : ConfigFlaw}

theorem Defect.of_mem_iff (same : ∀ name, name ∈ seen ↔ name ∈ others)
    (defect : limit.Defect seen flaw) : limit.Defect others flaw := by
  have new (notSeen : limit.dimension ∉ seen) : limit.dimension ∉ others :=
    fun again => notSeen ((same _).2 again)
  cases defect with
  | duplicate again => exact .duplicate ((same _).1 again)
  | empty notSeen empty => exact .empty (new notSeen) empty
  | misnamed notSeen positive improper => exact .misnamed (new notSeen) positive improper

/-- It does not matter in which order the dimensions came. -/
theorem defect_congr (same : ∀ name, name ∈ seen ↔ name ∈ others) :
    limit.Defect seen flaw ↔ limit.Defect others flaw :=
  ⟨Defect.of_mem_iff same, Defect.of_mem_iff fun name => (same name).symm⟩

/-- A limit with a defect is the first flaw of the limits that begin with it. -/
theorem Defect.limitFlaw?_cons (defect : limit.Defect seen flaw) (rest : List Limit) :
    limitFlaw? seen (limit :: rest) = some flaw := by
  cases defect with
  | duplicate again => simp [limitFlaw?, again]
  | empty new empty => simp [limitFlaw?, new, empty]
  | misnamed new positive improper =>
      have misnamed := (isDimensionName_eq_false_iff _).2 improper
      simp [limitFlaw?, new, Nat.ne_of_gt positive, misnamed]

/-- A limit without a defect is passed over, and its dimension counts as seen from then on. -/
theorem limitFlaw?_cons_of_flawless (flawless : ∀ flaw, ¬ limit.Defect seen flaw)
    (rest : List Limit) :
    limitFlaw? seen (limit :: rest) = limitFlaw? (limit.dimension :: seen) rest := by
  have new : limit.dimension ∉ seen := fun again => flawless _ (.duplicate again)
  have filled : limit.capacity ≠ 0 := fun empty => flawless _ (.empty new empty)
  have proper : isDimensionName limit.dimension = true := by
    by_contra misnamed
    have improper := (isDimensionName_eq_false_iff _).1 (Bool.eq_false_iff.2 misnamed)
    exact flawless _ (.misnamed new (Nat.pos_of_ne_zero filled) improper)
  simp [limitFlaw?, new, filled, proper]

end Limit

/-! ### The first defect -/

theorem defectAt_zero {seen : List String} {limit : Limit} {rest : List Limit}
    {flaw : ConfigFlaw} :
    DefectAt seen (limit :: rest) 0 flaw ↔ limit.Defect seen flaw := by
  simp [DefectAt]

theorem defectAt_succ {seen : List String} {limit : Limit} {rest : List Limit} {position : Nat}
    {flaw : ConfigFlaw} :
    DefectAt seen (limit :: rest) (position + 1) flaw ↔
      DefectAt (limit.dimension :: seen) rest position flaw := by
  unfold DefectAt
  refine exists_congr fun other => ?_
  rw [List.getElem?_cons_succ, List.take_succ_cons, List.map_cons]
  refine and_congr_right fun _ => Limit.defect_congr fun name => ?_
  simp only [List.cons_append, List.mem_cons, List.mem_append]
  exact or_left_comm

/-- The flaw of some limits is the defect at the least position that has one. -/
theorem limitFlaw?_eq_some_iff (seen : List String) (limits : List Limit) (flaw : ConfigFlaw) :
    limitFlaw? seen limits = some flaw ↔
      ∃ position, DefectAt seen limits position flaw ∧
        ∀ earlier < position, ∀ other, ¬ DefectAt seen limits earlier other := by
  induction limits generalizing seen with
  | nil => simp [limitFlaw?, DefectAt]
  | cons limit rest inductionHypothesis =>
      by_cases flawed : ∃ other, limit.Defect seen other
      · -- Whatever comes later, the first limit is refused first.
        obtain ⟨other, defect⟩ := flawed
        rw [defect.limitFlaw?_cons rest, Option.some.injEq]
        constructor
        · rintro rfl
          exact ⟨0, defectAt_zero.2 defect, fun earlier before => absurd before (Nat.not_lt_zero _)⟩
        · rintro ⟨position, found, first⟩
          cases position with
          | succ behind => exact absurd (defectAt_zero.2 defect) (first 0 (Nat.succ_pos _) other)
          | zero =>
              have flaws := (defectAt_zero.1 found).limitFlaw?_cons rest
              rw [defect.limitFlaw?_cons rest] at flaws
              exact Option.some.inj flaws
      · have flawless : ∀ other, ¬ limit.Defect seen other := not_exists.1 flawed
        rw [Limit.limitFlaw?_cons_of_flawless flawless rest, inductionHypothesis]
        constructor
        · rintro ⟨position, found, first⟩
          refine ⟨position + 1, defectAt_succ.2 found, ?_⟩
          intro earlier before other defect
          cases earlier with
          | zero => exact flawless other (defectAt_zero.1 defect)
          | succ earlier =>
              exact first earlier (Nat.lt_of_succ_lt_succ before) other (defectAt_succ.1 defect)
        · rintro ⟨position, found, first⟩
          cases position with
          | zero => exact absurd (defectAt_zero.1 found) (flawless flaw)
          | succ position =>
              refine ⟨position, defectAt_succ.1 found, ?_⟩
              intro earlier before other defect
              exact first (earlier + 1) (Nat.succ_lt_succ before) other (defectAt_succ.2 defect)

/-! ### Descriptions of flaws -/

namespace ConfigFlaw

/-- How the description of a flaw begins, before it names a dimension. -/
def opening : ConfigFlaw → String
  | emptyWindow => "limiter.ref"
  | freeRequests => "limiter.req"
  | emptyInterval => "limiter.gc."
  | duplicateLimit _ => "duplicate l"
  | emptyCapacity _ => "limit for '"
  | badDimension _ => "invalid dim"

/-- What follows the opening of a description. -/
def continuation : ConfigFlaw → String
  | emptyWindow => "ill_rate.window_secs must be positive"
  | freeRequests => "uest_cost must be at least 1"
  | emptyInterval => "interval_secs must be positive when gc is enabled"
  | duplicateLimit dimension => "imit for '" ++ dimension ++ "'"
  | emptyCapacity dimension => dimension ++ "' must have a positive capacity"
  | badDimension dimension => "ension name '" ++ dimension ++ "'"

theorem message_eq (flaw : ConfigFlaw) : flaw.message = flaw.opening ++ flaw.continuation := by
  cases flaw with
  | duplicateLimit dimension =>
      have cut : "duplicate limit for '" = "duplicate l" ++ "imit for '" := by decide +kernel
      change "duplicate limit for '" ++ dimension ++ "'" =
        "duplicate l" ++ ("imit for '" ++ dimension ++ "'")
      rw [cut, String.append_assoc, String.append_assoc, String.append_assoc]
  | emptyCapacity dimension => exact String.append_assoc
  | badDimension dimension =>
      have cut : "invalid dimension name '" = "invalid dim" ++ "ension name '" := by decide +kernel
      change "invalid dimension name '" ++ dimension ++ "'" =
        "invalid dim" ++ ("ension name '" ++ dimension ++ "'")
      rw [cut, String.append_assoc, String.append_assoc, String.append_assoc]
  | _ => decide +kernel

/-- All openings are equally long, so a description shows where its opening ends. -/
theorem length_opening (flaw : ConfigFlaw) : flaw.opening.toList.length = 11 := by
  cases flaw <;> rw [opening] <;> decide +kernel

/-- No two flaws are described alike. -/
theorem message_injective : Function.Injective message := by
  intro flaw other same
  have characters := congrArg String.toList same
  rw [message_eq, message_eq, String.toList_append, String.toList_append] at characters
  obtain ⟨openings, continuations⟩ :=
    List.append_inj characters (by rw [length_opening, length_opening])
  rw [String.toList_inj] at openings continuations
  -- The openings tell the kinds of flaws apart, and what follows names the dimension.
  cases flaw <;> cases other <;> simp_all [opening, continuation]

end ConfigFlaw

/-! ### Configurations -/

namespace Config

/-- A configuration that a service can work with. -/
structure IsSound (config : Config) : Prop where
  window_pos : 0 < config.limiter.refill.windowSeconds
  cost_pos : 1 ≤ config.limiter.requestCost
  interval_pos : 0 < config.limiter.sweeping.intervalSeconds ∨
    config.limiter.sweeping.enabled = false
  distinct : config.limits.Pairwise fun first second => first.dimension ≠ second.dimension
  capacity_pos : ∀ limit ∈ config.limits, 0 < limit.capacity
  named : ∀ limit ∈ config.limits,
    limit.dimension ≠ "" ∧ keySeparator ∉ limit.dimension.toList

/-- The flaw that a configuration is refused for: all that is looked at before is as it should
be, and no limit in front has a defect. -/
inductive FirstFlaw (config : Config) : ConfigFlaw → Prop
  | window (empty : config.limiter.refill.windowSeconds = 0) : FirstFlaw config .emptyWindow
  | cost (window : 0 < config.limiter.refill.windowSeconds)
      (free : config.limiter.requestCost = 0) : FirstFlaw config .freeRequests
  | interval (window : 0 < config.limiter.refill.windowSeconds)
      (cost : 1 ≤ config.limiter.requestCost)
      (enabled : config.limiter.sweeping.enabled = true)
      (empty : config.limiter.sweeping.intervalSeconds = 0) : FirstFlaw config .emptyInterval
  | limit (window : 0 < config.limiter.refill.windowSeconds)
      (cost : 1 ≤ config.limiter.requestCost)
      (interval : 0 < config.limiter.sweeping.intervalSeconds ∨
        config.limiter.sweeping.enabled = false)
      {position : Nat} {flaw : ConfigFlaw} (defect : DefectAt [] config.limits position flaw)
      (first : ∀ earlier < position, ∀ other, ¬ DefectAt [] config.limits earlier other) :
      FirstFlaw config flaw

/-- Sweeps make sense if time passes between them, or if there are none. -/
theorem not_unspaced_iff (sweeping : SweepConfig) :
    ¬ (sweeping.enabled = true ∧ sweeping.intervalSeconds = 0) ↔
      0 < sweeping.intervalSeconds ∨ sweeping.enabled = false := by
  rw [not_and_or, Bool.not_eq_true, ← Ne, ← Nat.pos_iff_ne_zero, or_comm]

theorem isSound_iff (config : Config) : config.IsSound ↔ config.flaw? = none := by
  rw [flaw?_eq_none_iff, List.nodup_iff_pairwise_ne, List.pairwise_map]
  constructor
  · rintro ⟨window, cost, interval, distinct, filled, named⟩
    refine ⟨window, cost, ?_, ?_, distinct⟩
    · intro enabled
      exact interval.resolve_right fun disabled => Bool.noConfusion (disabled.symm.trans enabled)
    · intro limit member
      refine ⟨filled limit member, ?_⟩
      rw [← Bool.not_eq_false, isDimensionName_eq_false_iff, not_or]
      exact named limit member
  · rintro ⟨window, cost, interval, each, distinct⟩
    refine ⟨window, cost, ?_, distinct, fun limit member => (each limit member).1, ?_⟩
    · cases enabled : config.limiter.sweeping.enabled with
      | true => exact .inl (interval enabled)
      | false => exact .inr rfl
    · intro limit member
      have proper := (each limit member).2
      rwa [← Bool.not_eq_false, isDimensionName_eq_false_iff, not_or] at proper

theorem flaw?_eq_some_iff (config : Config) (flaw : ConfigFlaw) :
    config.flaw? = some flaw ↔ config.FirstFlaw flaw := by
  have limits := limitFlaw?_eq_some_iff [] config.limits flaw
  unfold flaw?
  constructor
  · intro found
    split at found
    · next empty =>
        cases found
        exact .window empty
    · next window =>
        have window := Nat.pos_of_ne_zero window
        split at found
        · next free =>
            cases found
            exact .cost window free
        · next cost =>
            have cost := Nat.pos_of_ne_zero cost
            split at found
            · next interval =>
                cases found
                exact .interval window cost interval.1 interval.2
            · next interval =>
                obtain ⟨position, defect, first⟩ := limits.1 found
                exact .limit window cost ((not_unspaced_iff _).1 interval) defect first
  · intro first
    cases first with
    | window empty => rw [if_pos empty]
    | cost window free => rw [if_neg (Nat.ne_of_gt window), if_pos free]
    | interval window cost enabled empty =>
        rw [if_neg (Nat.ne_of_gt window), if_neg (Nat.ne_of_gt cost), if_pos ⟨enabled, empty⟩]
    | limit window cost interval defect first =>
        rw [if_neg (Nat.ne_of_gt window), if_neg (Nat.ne_of_gt cost),
          if_neg ((not_unspaced_iff _).2 interval)]
        exact limits.2 ⟨_, defect, first⟩

/-- A configuration is refused for one flaw and with the text that describes it. -/
theorem validate_eq_error_iff (config : Config) (fault : Fault) :
    config.validate = .error fault ↔
      ∃ flaw, config.FirstFlaw flaw ∧ fault = .configuration flaw.message := by
  simp only [← flaw?_eq_some_iff]
  unfold validate
  cases found : config.flaw? with
  | none => simp
  | some flaw => simp [eq_comm]

/-- Exactly the sound configurations are accepted, as they are.  Any other is refused for its
first flaw, and the text of the refusal tells which one that is. -/
theorem validate_reports_first (config : Config) :
    (∀ other, config.validate = .ok other ↔ config.IsSound ∧ other = config) ∧
    (∀ fault, config.validate = .error fault ↔
      ∃ flaw, config.FirstFlaw flaw ∧ fault = .configuration flaw.message) ∧
    ∀ flaw, config.validate = .error (.configuration flaw.message) ↔ config.FirstFlaw flaw := by
  refine ⟨fun other => ?_, config.validate_eq_error_iff, fun flaw => ?_⟩
  · rw [validate_eq_ok_iff, isSound_iff]
  · rw [validate_eq_error_iff]
    constructor
    · rintro ⟨other, first, same⟩
      have described := ConfigFlaw.message_injective (Fault.configuration.inj same)
      exact described ▸ first
    · intro first
      exact ⟨flaw, first, rfl⟩

/-- Of four limits the third is for a dimension that came before and has no capacity either, and
the fourth has an improper name.  It is the third that is reported, as a duplicate. -/
example :
    ({ limits := [.plain "ip" 5, .plain "login" 3, .plain "ip" 0, .plain "user_name" 1] :
      Config }).validate =
        .error (.configuration "duplicate limit for 'ip'") := by
  decide +kernel

end Config

end LoginThrottle
