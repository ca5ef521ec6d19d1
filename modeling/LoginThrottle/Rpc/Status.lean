import LoginThrottle.Fault

/-!
# Statuses of remote calls

How a remote call ended: a code from a fixed list and a text.

## Main Definitions

* `StatusCode`: the codes in use, with their numbers and names
* `Status`: a code and a text
* `Fault.status`: the status of a call that ended in a fault
-/

namespace LoginThrottle

/-- How a remote call ended. -/
inductive StatusCode
  | ok
  | unknown
  | invalidArgument
  | notFound
  | outOfRange
  | unimplemented
  | internal
  deriving DecidableEq, Repr

namespace StatusCode

/-- The number of a code on the wire. -/
def number : StatusCode → Nat
  | ok => 0
  | unknown => 2
  | invalidArgument => 3
  | notFound => 5
  | outOfRange => 11
  | unimplemented => 12
  | internal => 13

/-- The name of a code. -/
def name : StatusCode → String
  | ok => "Ok"
  | unknown => "Unknown"
  | invalidArgument => "InvalidArgument"
  | notFound => "NotFound"
  | outOfRange => "OutOfRange"
  | unimplemented => "Unimplemented"
  | internal => "Internal"

end StatusCode

/-- A code and a text. -/
structure Status where
  code : StatusCode
  message : String
  deriving DecidableEq, Repr

/-- The code of a call that ended in a fault. Only what the caller did wrong is told apart
from what went wrong inside. -/
def Fault.code : Fault → StatusCode
  | incorrectIdentity | invalidAddress _ => .invalidArgument
  | ruleNotFound => .notFound
  | _ => .internal

/-- The status of a call that ended in a fault. -/
def Fault.status (fault : Fault) : Status :=
  ⟨fault.code, fault.message⟩

end LoginThrottle
