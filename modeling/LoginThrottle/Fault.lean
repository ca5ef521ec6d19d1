/-!
# Faults

Why an operation could not be carried out. A denied attempt is not a fault: it is
an answer.

## Main Definitions

* `Fault`: the causes
* `Fault.message`: the text that describes a fault to a caller
-/

namespace LoginThrottle

/-- Why an operation could not be carried out. -/
inductive Fault
  /-- The identity lacks a dimension that is needed, or names one that is not served. -/
  | incorrectIdentity
  /-- No limits are stored for the dimensions that were asked for. -/
  | noLimitsFound
  /-- A bucket key does not lead to a served dimension. -/
  | incorrectBucketKey (key : String)
  /-- The limiter does not offer the operation. -/
  | notSupported
  /-- A text that had to be an address, or an address or network, is neither. -/
  | invalidAddress (text : String)
  /-- No stored rule has the text that was to be deleted. -/
  | ruleNotFound
  /-- A store of limits or rules failed. -/
  | storage (reason : String)
  /-- A configuration could not be read or is not sound. -/
  | configuration (reason : String)
  /-- The remote call listener failed. -/
  | listener (reason : String)
  /-- The operating system refused an input or output operation. -/
  | inputOutput (reason : String)
  deriving DecidableEq, Repr

/-- The text that describes a fault to a caller. -/
def Fault.message : Fault → String
  | incorrectIdentity => "not found appropriate key in user identity"
  | noLimitsFound => "not found any limits for given identity"
  | incorrectBucketKey key => "incorrect bucket key: " ++ key
  | notSupported => "operation not supported"
  | invalidAddress text => "incorrect IP passed: " ++ text
  | ruleNotFound => "rule not found"
  | storage reason => "Storage error: " ++ reason
  | configuration reason => "Configuration error: " ++ reason
  | listener reason => "gRPC error: " ++ reason
  | inputOutput reason => "I/O error: " ++ reason

end LoginThrottle
