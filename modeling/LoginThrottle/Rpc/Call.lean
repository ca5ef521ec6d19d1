import LoginThrottle.Action
import LoginThrottle.Net.SocketAddress
import LoginThrottle.Rpc.Metadata
import LoginThrottle.Rpc.Status

/-!
# Remote calls

Actions that are asked for from afar: their methods, what is refused before the action
begins, and what is recorded about a call.

## Main Definitions

* `Method`: the names of the actions
* `Call`: an action, the metadata sent with it and where it comes from
* `Rejection`: why a call did not succeed
* `Station.answerCall`: the result of a call and the state after it
* `CallReport`: what is sent back and recorded

## Design Notes

A call with an empty text is refused without a look at the station. Every call is answered
under one request id, the caller's own if it sent a readable one. It is recorded as a text
and sent back as a value, if it can be written as one.
-/

namespace LoginThrottle

/-! ### Methods -/

/-- The names of the actions. -/
inductive Method
  | limitCheck
  | bucketReset
  | listAdd (list : ListKind)
  | listDelete (list : ListKind)
  deriving DecidableEq, Repr

namespace Method

/-- All methods. -/
def all : List Method :=
  [limitCheck, bucketReset, listAdd .white, listDelete .white, listAdd .black, listDelete .black]

/-- The name of a list within the name of a method. -/
def listName : ListKind → String
  | .white => "WhiteList"
  | .black => "BlackList"

/-- The name of a method. -/
def name : Method → String
  | limitCheck => "LimitCheck"
  | bucketReset => "BucketReset"
  | listAdd list => listName list ++ "Add"
  | listDelete list => listName list ++ "Delete"

/-- The method with the given name. -/
def ofName? (name : String) : Option Method :=
  all.find? fun method => method.name == name

/-- The names of the fields of a message, in the order of declaration. -/
def fieldNames : Method → List String
  | limitCheck => ["ip", "login", "password"]
  | bucketReset => ["ip", "login"]
  | listAdd _ | listDelete _ => ["ip_net"]

/-- The action that a message asks for, from the texts of its fields. -/
def action (method : Method) (text : String → String) : Action :=
  match method with
  | limitCheck => .check (text "ip") (text "login") (text "password")
  | bucketReset => .reset (text "ip") (text "login")
  | listAdd list => .add list (text "ip_net")
  | listDelete list => .remove list (text "ip_net")

end Method

/-- The method that asks for an action. -/
def Action.method : Action → Method
  | check _ _ _ => .limitCheck
  | reset _ _ => .bucketReset
  | add list _ => .listAdd list
  | remove list _ => .listDelete list

/-! ### Calls -/

/-- An action that is asked for from afar. -/
structure Call where
  action : Action
  metadata : Metadata
  /-- Where the call comes from, if the transport knows. -/
  remote : Option SocketAddress
  deriving DecidableEq

/-- Why a call did not succeed. -/
inductive Rejection
  | emptyField (name : String)
  | failed (fault : Fault)
  deriving DecidableEq, Repr

namespace Rejection

/-- The status of a call that did not succeed. -/
def status : Rejection → Status
  | emptyField name => ⟨.invalidArgument, name ++ " is required"⟩
  | failed fault => fault.status

/-- What the log says about a call that did not succeed, and about what. -/
def warning : Rejection → String × String
  | emptyField name => ("Received request with empty field", name)
  | failed fault => ("Request failed", fault.message)

end Rejection

/-- The result of the action of a call and the state after it. -/
def Station.answer (station : Station) (action : Action) : Except Rejection Reply × Station :=
  match action.emptyField? with
  | some name => (.error (.emptyField name), station)
  | none =>
    let (result, station) := station.act action
    (result.mapError .failed, station)

/-! ### Records -/

/-- What stands for a caller or a program that is not known. -/
def unknownName : String := "unknown"

namespace Call

/-- The key of request ids. -/
def requestIdKey : String := "x-request-id"

/-- The request id of a call: the caller's own, or else a fresh one. -/
def requestId (fresh : String) (call : Call) : String :=
  (call.metadata.text? requestIdKey).getD fresh

/-- A text without blanks at its ends. -/
def trim (text : List Char) : List Char :=
  let isBlank : Char → Bool := fun character => character = ' ' || character = '\t'
  ((text.dropWhile isBlank).reverse.dropWhile isBlank).reverse

/-- The first entry of a list with commas. -/
def firstEntry (text : String) : String :=
  String.ofList (trim (text.toList.takeWhile (· ≠ ',')))

/-- Who calls: the address that the transport knows, or else the first one for which the
call was forwarded. -/
def peer (call : Call) : String :=
  match call.remote with
  | some address => address.render
  | none => ((call.metadata.text? "x-forwarded-for").map firstEntry).getD unknownName

/-- The program that makes a call, as it names itself. -/
def userAgent (call : Call) : String :=
  (call.metadata.text? "user-agent").getD unknownName

end Call

/-- A line of the access log. -/
structure AccessEntry where
  method : Method
  code : StatusCode
  peer : String
  userAgent : String
  deriving DecidableEq, Repr

/-- What is sent back for a call and recorded about it. -/
structure CallReport where
  /-- The request id as it is recorded. -/
  requestId : String
  result : Except Rejection Reply
  /-- What is sent back beside the message or the status. -/
  metadata : Metadata
  access : AccessEntry

namespace CallReport

/-- The status of a call that did not succeed. -/
def status? (report : CallReport) : Option Status :=
  match report.result with
  | .ok _ => none
  | .error rejection => some rejection.status

/-- The request id as it is sent back. -/
def sentId? (report : CallReport) : Option String :=
  report.metadata.text? Call.requestIdKey

/-- What the log warns of. -/
def warnings (report : CallReport) : List (String × String) :=
  match report.result with
  | .ok _ => []
  | .error rejection => [rejection.warning]

end CallReport

/-- The code of a result. -/
def resultCode : Except Rejection Reply → StatusCode
  | .ok _ => .ok
  | .error rejection => rejection.status.code

/-- What is sent back under a request id, beside the message or the status. -/
def replyMetadata (requestId : String) : Metadata :=
  match Metadata.valueOf? requestId with
  | some value => Metadata.empty.insert Call.requestIdKey value
  | none => .empty

/-- What is sent back for a call and recorded about it, and the state after it. -/
def Station.answerCall (station : Station) (fresh : String) (call : Call) :
    CallReport × Station :=
  let (result, station) := station.answer call.action
  let access := ⟨call.action.method, resultCode result, call.peer, call.userAgent⟩
  let requestId := call.requestId fresh
  (⟨requestId, result, replyMetadata requestId, access⟩, station)

end LoginThrottle
