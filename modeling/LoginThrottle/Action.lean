import LoginThrottle.Station

/-!
# Actions of clients

What clients and administrators ask of a service: decisions on login attempts, a fresh
start for a client, and changes of the two lists.

## Main Definitions

* `Action`: the six kinds of requests
* `Action.event`: what a request means at a station
* `Action.emptyField?`: the first text of a request that was left empty
* `Station.act`: the reply to an action and the state after it
-/

namespace LoginThrottle

/-- What clients and administrators ask of a service. -/
inductive Action
  /-- Whether a login attempt passes. -/
  | check (ip login password : String)
  /-- A fresh start for a client. -/
  | reset (ip login : String)
  /-- A text to be put on a list. -/
  | add (list : ListKind) (text : String)
  /-- A text to be taken off a list. -/
  | remove (list : ListKind) (text : String)
  deriving DecidableEq, Repr

/-- What an action that succeeds replies. -/
inductive Reply
  | decision (allowed : Bool)
  | done
  deriving DecidableEq, Repr

namespace Action

/-- What an action means at a station. -/
def event : Action → Station.Event
  | check ip login password => .check .login (.ofAttempt ip login password)
  | reset ip login => .reset .login (.ofClient ip login)
  | add list text => .rules (.add text list)
  | remove list text => .rules (.remove text list)

/-- The texts of an action by the names of their fields, in the order of declaration. -/
def fields : Action → List (String × String)
  | check ip login password => [("ip", ip), ("login", login), ("password", password)]
  | reset ip login => [("ip", ip), ("login", login)]
  | add _ text | remove _ text => [("ip_net", text)]

/-- The name of the first field that was left empty. -/
def emptyField? (action : Action) : Option String :=
  (action.fields.find? fun field => field.2 == "").map Prod.fst

end Action

/-- What an answer says to somebody who asked for an action. -/
def Reply.ofAnswer : Station.Answer → Reply
  | .decision passed => decision passed
  | _ => done

/-- The reply to an action and the state after it. -/
def Station.act (station : Station) (action : Action) : Except Fault Reply × Station :=
  let (result, station) := station.react action.event
  (result.map Reply.ofAnswer, station)

end LoginThrottle
