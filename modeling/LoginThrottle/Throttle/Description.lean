import LoginThrottle.Text.Quoted
import LoginThrottle.Throttle

/-!
# Descriptions of meters and throttles

What a meter or a throttle looks like to somebody who inspects a running service: its
settings and the number of its buckets, but not who uses them.

## Main Definitions

* `Duration.describe`: a time in the largest unit that is not too large for it
* `Meter.describe`, `Throttle.describe`: settings by name
-/

namespace LoginThrottle

/-- Named settings between braces, after the name of what they belong to. -/
def describeRecord (name : String) (fields : List (String × String)) : String :=
  let settings := fields.map fun field => field.1 ++ ": " ++ field.2
  name ++ " \x7b " ++ ", ".intercalate settings ++ " \x7d"

/-- The digits of a fraction with so many places, without zeros at the end. -/
def fractionDigits (places value : Nat) : List Char :=
  let digits := (Nat.toDigits 10 value)
  let padded := List.replicate (places - digits.length) '0' ++ digits
  (padded.reverse.dropWhile (· = '0')).reverse

/-- A decimal number from its whole part and a fraction with so many places. -/
def renderDecimal (whole places fraction : Nat) : String :=
  if fraction = 0 then renderNat whole
  else renderNat whole ++ "." ++ String.ofList (fractionDigits places fraction)

/-- A time in seconds if there is a whole one in it, else in milliseconds,
microseconds or nanoseconds by the same rule. -/
def Duration.describe (duration : Duration) : String :=
  let nanos := duration.nanos
  if nanosPerSecond ≤ nanos then
    renderDecimal duration.wholeSeconds 9 duration.subsecondNanos ++ "s"
  else if 1000000 ≤ nanos then
    renderDecimal (nanos / 1000000) 6 (nanos % 1000000) ++ "ms"
  else if 1000 ≤ nanos then
    renderDecimal (nanos / 1000) 3 (nanos % 1000) ++ "µs"
  else
    renderNat nanos ++ "ns"

/-- The settings of a refill rate. -/
def RefillRate.describe (rate : RefillRate) : String :=
  describeRecord "RefillRate" [("count", renderNat rate.count), ("window", rate.window.describe)]

/-- The settings of a meter and the number of its buckets. -/
def Meter.describe (meter : Meter) : String :=
  describeRecord "TokenBucketLimiter"
    [("dimension", quote meter.dimension),
      ("capacity", renderNat meter.capacity),
      ("request_cost", renderNat meter.cost),
      ("buckets", renderNat meter.buckets.size)]

/-- Meters by dimension, or that there are none yet. -/
def describeMeters : Option (Keyed Meter) → String
  | none => "None"
  | some meters =>
    let filed := meters.entries.map fun entry => quote entry.1 ++ ": " ++ entry.2.describe
    "Some(\x7b" ++ ", ".intercalate filed ++ "\x7d)"

/-- The settings of a throttle and its meters. -/
def Throttle.describe (throttle : Throttle) : String :=
  describeRecord "CompositeLimiter"
    [("refill_rate", throttle.rate.describe),
      ("request_cost", renderNat throttle.cost),
      ("limiters", describeMeters throttle.meters)]

end LoginThrottle
