import LoginThrottle.Net.Numeral
import LoginThrottle.Rpc.Status

/-!
# Frames

The body of a remote call is a sequence of frames: a flag that says whether the message is
compressed, its length in four bytes, and the message.

## Main Definitions

* `readFrames`: the messages of the frames of a body
* `onlyMessage`: the message of a call that sends one
* `writeFrame`: a message in a frame

## Design Notes

Only the first message of a call counts, but the whole body must be well formed. A body that
ends right behind the head of a frame counts as if it had ended before it.
-/

namespace LoginThrottle

/-- The number of bytes in front of the message of a frame. -/
def frameHeadLength : Nat := 5

/-- The largest length of a message. -/
def longestMessage : Nat := 4194304

/-- The number that big-endian bytes stand for. -/
def bigEndian (bytes : List UInt8) : Nat :=
  ofDigits 256 (bytes.map UInt8.toNat)

/-- Why a flag is refused, if it is. Compression is not offered. -/
def flagFault? (flag : UInt8) : Option Status :=
  if flag = 0 then none
  else if flag = 1 then
    some ⟨.internal,
      "protocol error: received message with compressed-flag but no grpc-encoding was specified"⟩
  else
    some ⟨.internal, "protocol error: received message with invalid compression flag: "
      ++ renderNat flag.toNat ++ " (valid flags are 0 and 1), while sending request"⟩

/-- Why a length is refused, if it is. -/
def lengthFault? (length : Nat) : Option Status :=
  if length ≤ longestMessage then none
  else
    some ⟨.outOfRange, "Error, decoded message length too large: found " ++ renderNat length
      ++ " bytes, the limit is: " ++ renderNat longestMessage ++ " bytes"⟩

/-- The status of a body that ends within a frame. -/
def unexpectedEnd : Status :=
  ⟨.internal, "Unexpected EOF decoding stream."⟩

/-- The messages of the frames of a body, each read as soon as its frame is complete, within
`most` steps. -/
def readFrames {Message : Type} (read : List UInt8 → Except Status Message) :
    Nat → List UInt8 → Except Status (List Message)
  | _, [] => .ok []
  | 0, _ => .error unexpectedEnd
  | most + 1, flag :: rest =>
    if rest.length + 1 < frameHeadLength then
      .error unexpectedEnd
    else
      let length := bigEndian (rest.take 4)
      let content := rest.drop 4
      match (flagFault? flag).or (lengthFault? length) with
      | some status => .error status
      | none =>
        if content.length < length then
          if content.isEmpty then .ok [] else .error unexpectedEnd
        else do
          let message ← read (content.take length)
          let later ← readFrames read most (content.drop length)
          return message :: later

/-- The message of a call that sends one. -/
def onlyMessage {Message : Type} (read : List UInt8 → Except Status Message)
    (body : List UInt8) : Except Status Message := do
  match ← readFrames read body.length body with
  | [] => .error ⟨.internal, "Missing request message."⟩
  | message :: _ => return message

/-- A length in four bytes. -/
def lengthBytes (length : Nat) : List UInt8 :=
  [24, 16, 8, 0].map fun shift => UInt8.ofNat ((length >>> shift) % 256)

/-- A message in a frame. -/
def writeFrame (message : List UInt8) : List UInt8 :=
  0 :: lengthBytes message.length ++ message

end LoginThrottle
