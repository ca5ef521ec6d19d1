import LoginThrottle.Net.Numeral
import LoginThrottle.Net.Target

/-!
# Signs of life

A service that runs says so to whoever looks at one path over HTTP.

## Main Definitions

* `HealthReply`: how a request ends
* `healthReply`: the reply to a request
-/

namespace LoginThrottle

/-- How a request for a sign of life ends. -/
inductive HealthReply
  | alive
  /-- The path is known, but not to be used in that way. -/
  | notAllowed
  | notFound
  deriving DecidableEq, Repr

namespace HealthReply

/-- The number of a reply. -/
def code : HealthReply → Nat
  | alive => 200
  | notAllowed => 405
  | notFound => 404

/-- The words that go with the number of a reply. -/
def reason : HealthReply → String
  | alive => "OK"
  | notAllowed => "Method Not Allowed"
  | notFound => "Not Found"

/-- The ways in which the path may be used, sent to those who use it in another way. -/
def allowed? : HealthReply → Option String
  | notAllowed => some "GET,HEAD"
  | _ => none

/-- The first line of a reply. -/
def statusLine (reply : HealthReply) : String :=
  "HTTP/1.1 " ++ renderNat reply.code ++ " " ++ reply.reason

end HealthReply

/-- The path that shows signs of life. -/
def healthPath : String := "/health"

/-- The reply to a request with the given method for the given target. -/
def healthReply (method target : String) : HealthReply :=
  if targetPath target ≠ healthPath then .notFound
  else if method = "GET" ∨ method = "HEAD" then .alive
  else .notAllowed

end LoginThrottle
