import LoginThrottle.Time

/-!
# Refill rates

A refill rate says how many tokens come back to a bucket in one window of time.

## Main Definitions

* `RefillRate`: a token count per window
* `RefillRate.product`: the count times the nanoseconds of a time, in 128 bits
* `RefillRate.tokensFor`: the whole tokens earned in a given time

## Design Notes

Accrual is integer arithmetic: no token is credited before all of it has been earned.  The
product of count and time has 128 bits and starts over from zero beyond them.  So the tokens are
those that the rate promises as long as the product fits, and fewer once it does not.

An empty window earns nothing, which is what division by zero gives.
-/

namespace LoginThrottle

/-- The largest token count that is ever credited at once. -/
def largestCount : Nat := 0xffffffffffffffff

/-- The first product of a count and a time that does not fit into 128 bits. -/
def productModulus : Nat := 0x100000000000000000000000000000000

/-- `count` tokens come back in each `window`. -/
structure RefillRate where
  count : Nat
  window : Duration
  deriving DecidableEq, Repr, Inhabited

namespace RefillRate

/-- The count times the nanoseconds of a time.  It starts over when its 128 bits are exceeded. -/
def product (rate : RefillRate) (elapsed : Duration) : Nat :=
  elapsed.nanos * rate.count % productModulus

/-- The whole tokens earned in `elapsed`, capped at `largestCount`. -/
def tokensFor (rate : RefillRate) (elapsed : Duration) : Nat :=
  min (rate.product elapsed / rate.window.nanos) largestCount

@[simp] theorem product_zero (rate : RefillRate) : rate.product Duration.zero = 0 := by
  simp [product, Duration.zero]

@[simp] theorem tokensFor_zero (rate : RefillRate) : rate.tokensFor Duration.zero = 0 := by
  simp [tokensFor]

/-- A rate whose window is empty never earns a token. -/
theorem tokensFor_of_window_eq_zero {rate : RefillRate} (empty : rate.window.nanos = 0)
    (elapsed : Duration) : rate.tokensFor elapsed = 0 := by
  simp [tokensFor, empty]

end RefillRate

end LoginThrottle
