import LoginThrottle.Rpc.Exchange
import LoginThrottle.Text.Percent

/-!
# Calls over a network

A call that travels as a request over HTTP, and what the caller gets back.

## Main Definitions

* `Call.exchange`: the request that makes a call
* `Status.received`: a status as the caller reads it
* `Delivery`, `Station.deliver`: what a call leads to when it travels

## Design Notes

The text of a status travels in a header, where the percent sign of an escape cannot be told
from one that was there before. So the caller may read another text than the one that was
sent, and a status whose text cannot be read has a code of its own.
-/

namespace LoginThrottle

/-- The keys that belong to the transport. A caller's values under them do not travel. -/
def transportKeys : List String :=
  ["te", "user-agent", "content-type", "grpc-message", "grpc-message-type", "grpc-status"]

namespace Call

/-- The metadata that travels with a call that a program makes. -/
def headers (agent : String) (call : Call) : Metadata :=
  let own := call.metadata.entries.filter fun entry =>
    !transportKeys.contains (Metadata.normalize entry.1)
  ⟨("user-agent", agent.toUTF8.toList) :: own⟩

/-- The request that makes a call. -/
def exchange (agent : String) (call : Call) : Exchange where
  path := Exchange.methodPath call.action.method
  headers := call.headers agent
  body := writeFrame (writeTexts (call.action.fields.map Prod.snd))

end Call

/-- A status as the caller reads it. -/
def Status.received (status : Status) : Status :=
  match percentDecode (percentEncode status.message) with
  | .ok message => ⟨status.code, message⟩
  | .error flaw => ⟨.unknown, "Error deserializing status message header: " ++ flaw.message⟩

/-- What a call leads to when it travels. -/
structure Delivery where
  result : Except Status Reply
  /-- None if the request was refused before it became a call, or if its id could not be sent. -/
  requestId : Option String
  report : Option CallReport

/-- What a call that a program makes over a network leads to, and the state after it. -/
def Station.deliver (station : Station) (fresh agent : String) (call : Call) :
    Delivery × Station :=
  match (call.exchange agent).call with
  | .error status => (⟨.error status.received, none, none⟩, station)
  | .ok arrived =>
    let (report, station) := station.answerCall fresh { arrived with remote := call.remote }
    let result := report.result.mapError fun rejection => rejection.status.received
    (⟨result, report.sentId?, some report⟩, station)

end LoginThrottle
