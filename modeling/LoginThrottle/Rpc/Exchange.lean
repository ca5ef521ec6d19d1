import LoginThrottle.Net.Target
import LoginThrottle.Rpc.Call
import LoginThrottle.Rpc.Frame
import LoginThrottle.Rpc.Message

/-!
# Exchanges over HTTP

A remote call as it travels: the path names the method, headers carry the metadata, and the
body holds the message.

## Main Definitions

* `Exchange`: path, headers and body of a request
* `Exchange.call`: the call that a request makes
* `ExchangeReply`: what is sent back
* `Station.exchange`: the reply to a request and the state after it

## Design Notes

What is wrong with a request itself is found out before the station is asked. Such a
request has no request id.
-/

namespace LoginThrottle

/-- Path, headers and body of a request. -/
structure Exchange where
  path : String
  headers : Metadata
  body : List UInt8
  deriving DecidableEq

/-- What is sent back for a request. -/
structure ExchangeReply where
  code : StatusCode
  message : String
  requestId : Option String
  body : List UInt8
  deriving DecidableEq, Repr

namespace ExchangeReply

/-- A reply that reports a status and has no body. -/
def ofStatus (status : Status) (requestId : Option String) : ExchangeReply :=
  ⟨status.code, status.message, requestId, []⟩

end ExchangeReply

namespace Exchange

/-- The name of the service. -/
def serviceName : String := "authguard.v1.AuthLimiter"

/-- The path of a method. -/
def methodPath (method : Method) : String :=
  "/" ++ serviceName ++ "/" ++ method.name

/-- The method that a request is for. -/
def method? (exchange : Exchange) : Option Method :=
  Method.all.find? fun method => methodPath method == targetPath exchange.path

/-- How the message of a request is compressed, if in a way that is not understood. -/
def foreignEncoding? (exchange : Exchange) : Option (List UInt8) :=
  (exchange.headers.first? "grpc-encoding").filter fun bytes => bytes ≠ "identity".toUTF8.toList

/-- Bytes as the text that they encode, or else as numbers. -/
def describeBytes (bytes : List UInt8) : String :=
  match textOfBytes? bytes with
  | some text => text
  | none => "[" ++ ", ".intercalate (bytes.map fun byte => renderNat byte.toNat) ++ "]"

/-- The status of a request whose message is compressed in a way that is not understood. -/
def encodingStatus (encoding : List UInt8) : Status :=
  ⟨.unimplemented, "Content is compressed with `" ++ describeBytes encoding
    ++ "` which isn't supported"⟩

/-- The action that the bytes of a message ask for. -/
def readAction (method : Method) (bytes : List UInt8) : Except Status Action :=
  match readTexts (method.name ++ "Request") method.fieldNames bytes with
  | .ok text => .ok (method.action text)
  | .error fault => .error ⟨.internal, "failed to decode Protobuf message: " ++ fault.message⟩

/-- The call that a request makes, or the status of one that makes none. -/
def call (exchange : Exchange) : Except Status Call :=
  match exchange.method? with
  | none => .error ⟨.unimplemented, ""⟩
  | some method =>
    match exchange.foreignEncoding? with
    | some encoding => .error (encodingStatus encoding)
    | none =>
      (onlyMessage (readAction method) exchange.body).map fun action =>
        ⟨action, exchange.headers, none⟩

end Exchange

/-- The bytes of the message that carries a reply. Only a positive decision is written. -/
def Reply.bytes : Reply → List UInt8
  | decision true => [8, 1]
  | _ => []

/-- What is sent back for a call. -/
def CallReport.reply (report : CallReport) : ExchangeReply :=
  match report.result with
  | .ok reply => ⟨.ok, "", report.sentId?, writeFrame reply.bytes⟩
  | .error rejection => .ofStatus rejection.status report.sentId?

/-- The reply to a request and the state after it. -/
def Station.exchange (station : Station) (fresh : String) (exchange : Exchange) :
    ExchangeReply × Station :=
  match exchange.call with
  | .error status => (.ofStatus status none, station)
  | .ok call =>
    let (report, station) := station.answerCall fresh call
    (report.reply, station)

end LoginThrottle
