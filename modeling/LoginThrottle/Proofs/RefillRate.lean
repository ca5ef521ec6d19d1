import LoginThrottle.RefillRate

/-!
# Accrual over adjoining times

The tokens of a time and those of its two parts differ by at most the one token whose
earning was under way at the cut, as long as the product of count and time fits.  What a product
that starts over loses is never made up for.

## Main Definitions

* `RefillRate.accrual`: the whole tokens that a rate promises for a given time
* `RefillRate.CountsTo`: the product of the count and a time fits
* `RefillRate.outlook`: the most that can be earned up to a reading that is still ahead

## Main Statements

* `RefillRate.accrual_add_le`: cutting a time in two never earns more
* `RefillRate.accrual_le_add_succ`: and it loses at most one token
* `RefillRate.accrual_eq_add_of_mod_eq_zero`: and none if no token was under way
* `RefillRate.tokensFor_add_accrual_le_outlook`: what is earned is missing from what is ahead
* `RefillRate.tokensFor_additive`: the same for capped tokens, which more time, a larger count
  and a shorter window never make fewer

## Design Notes

The cap only takes away, so below it both bounds of a cut hold, and at it the upper one still
does.  An empty window is no exception to them, but it is no short window either: it earns
nothing.

A product that starts over takes away as well, so every upper bound holds without regard to it.
Only that something is earned at all, and how much at least, needs a product that fits.
-/

namespace LoginThrottle

namespace RefillRate

/-- The whole tokens that a rate promises for `elapsed`, without a cap. -/
def accrual (rate : RefillRate) (elapsed : Duration) : Nat :=
  rate.count * elapsed.nanos / rate.window.nanos

/-- The product of the count and a time fits into its 128 bits. -/
def CountsTo (rate : RefillRate) (elapsed : Duration) : Prop :=
  elapsed.nanos * rate.count < productModulus

instance (rate : RefillRate) (elapsed : Duration) : Decidable (rate.CountsTo elapsed) :=
  inferInstanceAs (Decidable (_ < _))

theorem countsTo_zero (rate : RefillRate) : rate.CountsTo .zero := by
  rw [CountsTo, Duration.zero, Nat.zero_mul]
  decide

theorem CountsTo.mono {rate : RefillRate} {short long : Duration} (counts : rate.CountsTo long)
    (le : short ≤ long) : rate.CountsTo short :=
  Nat.lt_of_le_of_lt (Nat.mul_le_mul_right rate.count le) counts

/-- A product that starts over only becomes smaller. -/
theorem product_le (rate : RefillRate) (elapsed : Duration) :
    rate.product elapsed ≤ rate.count * elapsed.nanos := by
  rw [product, Nat.mul_comm]
  exact Nat.mod_le _ _

theorem CountsTo.product_eq {rate : RefillRate} {elapsed : Duration}
    (counts : rate.CountsTo elapsed) : rate.product elapsed = rate.count * elapsed.nanos := by
  rw [product, Nat.mod_eq_of_lt counts, Nat.mul_comm]

theorem CountsTo.tokensFor_eq {rate : RefillRate} {elapsed : Duration}
    (counts : rate.CountsTo elapsed) :
    rate.tokensFor elapsed = min (rate.accrual elapsed) largestCount := by
  rw [tokensFor, counts.product_eq, accrual]

theorem tokensFor_le_accrual (rate : RefillRate) (elapsed : Duration) :
    rate.tokensFor elapsed ≤ rate.accrual elapsed :=
  Nat.le_trans (Nat.min_le_left _ _) (Nat.div_le_div_right (rate.product_le elapsed))

/-- A cap does not hide that something was earned. -/
theorem tokensFor_eq_zero_iff {rate : RefillRate} {elapsed : Duration} :
    rate.tokensFor elapsed = 0 ↔ rate.product elapsed / rate.window.nanos = 0 := by
  have cap_pos : 0 < largestCount := by decide
  rw [tokensFor]
  omega

theorem accrual_mono (rate : RefillRate) {short long : Duration} (le : short ≤ long) :
    rate.accrual short ≤ rate.accrual long :=
  Nat.div_le_div_right (Nat.mul_le_mul_left rate.count le)

theorem accrual_mono_count {less more : Nat} (le : less ≤ more) (window elapsed : Duration) :
    accrual ⟨less, window⟩ elapsed ≤ accrual ⟨more, window⟩ elapsed :=
  Nat.div_le_div_right (Nat.mul_le_mul_right elapsed.nanos le)

theorem accrual_antitone_window (count : Nat) {short long : Duration} (nonempty : 0 < short.nanos)
    (le : short ≤ long) (elapsed : Duration) :
    accrual ⟨count, long⟩ elapsed ≤ accrual ⟨count, short⟩ elapsed :=
  Nat.div_le_div_left le nonempty

/-- A cap keeps the order of what is earned, if the larger product fits. -/
theorem CountsTo.tokensFor_le_tokensFor {rate other : RefillRate}
    {elapsed otherElapsed : Duration} (counts : other.CountsTo otherElapsed)
    (le : rate.accrual elapsed ≤ other.accrual otherElapsed) :
    rate.tokensFor elapsed ≤ other.tokensFor otherElapsed := by
  have atMost := rate.tokensFor_le_accrual elapsed
  have capped : rate.tokensFor elapsed ≤ largestCount := Nat.min_le_right _ _
  rw [counts.tokensFor_eq]
  omega

theorem CountsTo.tokensFor_mono {rate : RefillRate} {short long : Duration}
    (counts : rate.CountsTo long) (le : short ≤ long) :
    rate.tokensFor short ≤ rate.tokensFor long :=
  counts.tokensFor_le_tokensFor (rate.accrual_mono le)

/-! ### Cuts -/

variable (rate : RefillRate) {first second whole : Duration}

/-- Cutting a time in two never earns more. -/
theorem accrual_add_le (cut : whole.nanos = first.nanos + second.nanos) :
    rate.accrual first + rate.accrual second ≤ rate.accrual whole := by
  unfold accrual
  rw [cut, Nat.mul_add]
  exact Nat.div_add_div_le_add_div

/-- Cutting a time in two loses at most one token. -/
theorem accrual_le_add_succ (cut : whole.nanos = first.nanos + second.nanos) :
    rate.accrual whole ≤ rate.accrual first + rate.accrual second + 1 := by
  unfold accrual
  rcases Nat.eq_zero_or_pos rate.window.nanos with empty | window_pos
  · simp [empty]
  · have ofFirst := Nat.lt_mul_div_succ (rate.count * first.nanos) window_pos
    have ofSecond := Nat.lt_mul_div_succ (rate.count * second.nanos) window_pos
    apply Nat.le_of_lt_succ
    rw [Nat.div_lt_iff_lt_mul window_pos, cut, Nat.mul_add]
    -- Both remainders lie below the window, so together they make less than two tokens.
    calc rate.count * first.nanos + rate.count * second.nanos
        < rate.window.nanos * (rate.count * first.nanos / rate.window.nanos + 1) +
            rate.window.nanos * (rate.count * second.nanos / rate.window.nanos + 1) :=
          Nat.add_lt_add ofFirst ofSecond
      _ = (rate.count * first.nanos / rate.window.nanos +
            rate.count * second.nanos / rate.window.nanos + 1).succ * rate.window.nanos := by
          rw [← Nat.mul_add, Nat.mul_comm]
          congr 1
          omega

/-- A cut at which no token is under way loses nothing. -/
theorem accrual_eq_add_of_mod_eq_zero (cut : whole.nanos = first.nanos + second.nanos)
    (settled : rate.count * first.nanos % rate.window.nanos = 0) :
    rate.accrual whole = rate.accrual first + rate.accrual second := by
  unfold accrual
  rcases Nat.eq_zero_or_pos rate.window.nanos with empty | window_pos
  · simp [empty]
  · obtain ⟨tokens, worth⟩ := Nat.dvd_of_mod_eq_zero settled
    rw [cut, Nat.mul_add, worth, Nat.mul_add_div window_pos, Nat.mul_div_cancel_left _ window_pos]

/-- Cutting a time in two earns no more under the cap either, if the cap and the product spare the
whole time. -/
theorem tokensFor_add_le (cut : whole.nanos = first.nanos + second.nanos)
    (counts : rate.CountsTo whole) (uncapped : rate.accrual whole ≤ largestCount) :
    rate.tokensFor first + rate.tokensFor second ≤ rate.tokensFor whole :=
  calc rate.tokensFor first + rate.tokensFor second
      ≤ rate.accrual first + rate.accrual second :=
        Nat.add_le_add (rate.tokensFor_le_accrual first) (rate.tokensFor_le_accrual second)
    _ ≤ rate.accrual whole := rate.accrual_add_le cut
    _ = rate.tokensFor whole := by rw [counts.tokensFor_eq, Nat.min_eq_left uncapped]

/-- Cutting a time in two loses at most one token under the cap, whether it is reached or not. -/
theorem tokensFor_le_add_succ (cut : whole.nanos = first.nanos + second.nanos)
    (counts : rate.CountsTo whole) :
    rate.tokensFor whole ≤ rate.tokensFor first + rate.tokensFor second + 1 := by
  have most := rate.accrual_le_add_succ cut
  have first_le : first ≤ whole := by
    rw [Duration.le_def]
    omega
  have second_le : second ≤ whole := by
    rw [Duration.le_def]
    omega
  rw [counts.tokensFor_eq, (counts.mono first_le).tokensFor_eq,
    (counts.mono second_le).tokensFor_eq]
  omega

/-! ### What is still ahead -/

/-- The most that can be earned in a time and in another one ahead of it, whose products add up
unless they start over. -/
def outlook (elapsed ahead : Duration) : Nat :=
  (rate.product elapsed + rate.count * ahead.nanos) / rate.window.nanos

@[simp] theorem outlook_zero (ahead : Duration) :
    rate.outlook .zero ahead = rate.accrual ahead := by
  rw [outlook, product_zero, Nat.zero_add, accrual]

theorem accrual_le_outlook (elapsed ahead : Duration) :
    rate.accrual ahead ≤ rate.outlook elapsed ahead :=
  Nat.div_le_div_right (Nat.le_add_left _ _)

/-- What is earned is missing from what is still ahead. -/
theorem tokensFor_add_accrual_le_outlook (elapsed ahead : Duration) :
    rate.tokensFor elapsed + rate.accrual ahead ≤ rate.outlook elapsed ahead := by
  have uncapped : rate.tokensFor elapsed ≤ rate.product elapsed / rate.window.nanos :=
    Nat.min_le_left _ _
  refine Nat.le_trans (Nat.add_le_add_right uncapped _) ?_
  exact Nat.div_add_div_le_add_div

/-- A time that has earned nothing is worth at most one token together with the time ahead. -/
theorem outlook_le_of_tokensFor_eq_zero {elapsed : Duration}
    (nothing : rate.tokensFor elapsed = 0) (ahead : Duration) :
    rate.outlook elapsed ahead ≤ rate.accrual ahead + 1 := by
  rcases Nat.eq_zero_or_pos rate.window.nanos with empty | window_pos
  · simp [outlook, empty]
  · have unearned : rate.product elapsed < rate.window.nanos :=
      Nat.lt_of_div_eq_zero window_pos (tokensFor_eq_zero_iff.1 nothing)
    calc rate.outlook elapsed ahead
        ≤ (rate.window.nanos + rate.count * ahead.nanos) / rate.window.nanos :=
          Nat.div_le_div_right (Nat.add_le_add_right (Nat.le_of_lt unearned) _)
      _ = rate.accrual ahead + 1 := by rw [Nat.add_div_left _ window_pos, accrual]

/-- The product of a time exceeds that of its first part by at most what the rest is worth. -/
theorem product_le_add (cut : whole.nanos = first.nanos + second.nanos) :
    rate.product whole ≤ rate.product first + rate.count * second.nanos := by
  rw [product, cut, Nat.add_mul, ← Nat.mod_add_mod, Nat.mul_comm second.nanos]
  exact Nat.mod_le _ _

/-- As time passes, what is ahead becomes what has passed, and it is worth no more for that. -/
theorem outlook_le_outlook {ahead rest : Duration}
    (passed : whole.nanos = first.nanos + second.nanos)
    (cut : ahead.nanos = second.nanos + rest.nanos) :
    rate.outlook whole rest ≤ rate.outlook first ahead := by
  refine Nat.div_le_div_right ?_
  rw [cut, Nat.mul_add, ← Nat.add_assoc]
  exact Nat.add_le_add_right (rate.product_le_add passed) _

/-! ### Additivity -/

/-- **Truncated accrual is additive up to one token.**  A time that is cut in two earns what its
parts earn or one token more, as long as the product fits and the cap is not reached.  Capped or
not, as long as the larger product fits, more time and a larger count never earn less, and a
window that is longer than another one, which is not empty, never earns more. -/
theorem tokensFor_additive (rate : RefillRate) :
    (∀ first second whole : Duration, whole.nanos = first.nanos + second.nanos →
      whole.nanos * rate.count < productModulus →
      whole.nanos * rate.count / rate.window.nanos ≤ largestCount →
        rate.tokensFor first + rate.tokensFor second ≤ rate.tokensFor whole ∧
          rate.tokensFor whole ≤ rate.tokensFor first + rate.tokensFor second + 1) ∧
    (∀ short long, short ≤ long → long.nanos * rate.count < productModulus →
      rate.tokensFor short ≤ rate.tokensFor long) ∧
    (∀ more, rate.count ≤ more → ∀ elapsed, elapsed.nanos * more < productModulus →
      rate.tokensFor elapsed ≤ { rate with count := more }.tokensFor elapsed) ∧
    ∀ longer, 0 < rate.window.nanos → rate.window ≤ longer →
      ∀ elapsed, elapsed.nanos * rate.count < productModulus →
        { rate with window := longer }.tokensFor elapsed ≤ rate.tokensFor elapsed := by
  refine ⟨fun first second whole cut counts spared => ?_,
    fun short long le counts => CountsTo.tokensFor_mono counts le,
    fun more le elapsed counts => ?_, fun longer nonempty le elapsed counts => ?_⟩
  · have uncapped : rate.accrual whole ≤ largestCount := by
      rwa [accrual, Nat.mul_comm]
    exact ⟨rate.tokensFor_add_le cut counts uncapped, rate.tokensFor_le_add_succ cut counts⟩
  · exact CountsTo.tokensFor_le_tokensFor counts (accrual_mono_count le rate.window elapsed)
  · exact CountsTo.tokensFor_le_tokensFor counts
      (accrual_antitone_window rate.count nonempty le elapsed)

/-- At three tokens a second, both parts of a second earn one token, and the second itself earns
one more than they do.  If the window is twice as long, it does not earn more.  At the largest
count two seconds earn all that is ever credited. -/
theorem threePerSecond_additive :
    let rate : RefillRate := ⟨3, .ofSeconds 1⟩
    let whole : Duration := .ofSeconds 1
    let capped : RefillRate := { rate with count := largestCount }
    0 < rate.window.nanos ∧ whole.nanos * rate.count / rate.window.nanos ≤ largestCount ∧
      whole.nanos * rate.count < productModulus ∧
      rate.tokensFor whole ≤ rate.tokensFor ⟨400000000⟩ + rate.tokensFor ⟨600000000⟩ + 1 ∧
      rate.tokensFor ⟨400000000⟩ = 1 ∧ rate.tokensFor ⟨600000000⟩ = 1 ∧
      rate.tokensFor whole = 3 ∧
      rate.tokensFor (.ofSeconds 2) ≤ capped.tokensFor (.ofSeconds 2) ∧
      { rate with window := .ofSeconds 2 }.tokensFor whole ≤ rate.tokensFor whole ∧
      capped.tokensFor (.ofSeconds 2) = largestCount := by
  intro rate whole capped
  have nonempty : 0 < rate.window.nanos := by decide
  have uncapped : whole.nanos * rate.count / rate.window.nanos ≤ largestCount := by decide
  have counts : whole.nanos * rate.count < productModulus := by decide
  obtain ⟨cuts, -, counted, windows⟩ := rate.tokensFor_additive
  refine ⟨nonempty, uncapped, counts,
    (cuts ⟨400000000⟩ ⟨600000000⟩ whole rfl counts uncapped).2, ?_, ?_, ?_,
    counted largestCount (by decide) (.ofSeconds 2) (by decide),
    windows (.ofSeconds 2) nonempty (by decide) whole counts, ?_⟩ <;> decide

end RefillRate

namespace Instant

/-- The time between two readings is cut by a reading between them. -/
theorem since_eq_add {earlier now later : Instant} (begun : earlier ≤ now) (going : now ≤ later) :
    (later.since earlier).nanos = (now.since earlier).nanos + (later.since now).nanos := by
  rw [le_def] at begun going
  simp only [since]
  omega

/-- A later start leaves less time. -/
theorem since_le_since {earlier now : Instant} (begun : earlier ≤ now) (later : Instant) :
    later.since now ≤ later.since earlier := by
  rw [le_def] at begun
  simp only [Duration.le_def, since]
  omega

/-- As time goes on, more of it has passed. -/
theorem since_mono {now later : Instant} (passed : now ≤ later) (earlier : Instant) :
    now.since earlier ≤ later.since earlier := by
  rw [le_def] at passed
  simp only [Duration.le_def, since]
  omega

end Instant

end LoginThrottle
