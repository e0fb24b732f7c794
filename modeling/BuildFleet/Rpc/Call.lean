import BuildFleet.Rpc.Status
import BuildFleet.Wire.Message
/-!
# Calls to the provisioning service

A call sends one framed request and is answered by a stream of messages that ends with a status, or
by a status alone. Reading stops at the first message that cannot be decoded, which ends the stream
with an internal error.
-/
namespace BuildFleet.Rpc

/-- Where requests for instances are sent. -/
def createInstancePath : String := "/protos.GomoteService/CreateInstance"

/-- A number as four bytes, the most significant first. -/
def bigEndian32 (n : Nat) : List UInt8 :=
  [UInt8.ofNat (n / 0x1000000), UInt8.ofNat (n / 0x10000), UInt8.ofNat (n / 0x100), UInt8.ofNat n]

/-- A message as it is sent: not compressed, with its length in front. -/
def frame (message : List UInt8) : List UInt8 := 0 :: bigEndian32 message.length ++ message

inductive Reply where
  /-- The transport did not take the call. -/
  | notReady (cause : String)
  | ended (status : Status)
  | stream (messages : List (List UInt8)) (status : Status)

/-- The items of a stream: messages, and at most one failure, which is the last. -/
def readStream (status : Status) : List (List UInt8) → List (Except Status Wire.Response)
  | [] => if status.code = .ok then [] else [.error status]
  | message :: rest =>
    match Wire.Response.decode message with
    | .ok response => .ok response :: readStream status rest
    | .error fault => [.error ⟨.internal, fault.message⟩]

/-- What a reply means: a failed call, or the items of its stream. -/
def Reply.items : Reply → Except Status (List (Except Status Wire.Response))
  | notReady cause => .error ⟨.unknown, "Service was not ready: " ++ cause⟩
  | ended status => if status.code = .ok then .ok [] else .error status
  | stream messages status => .ok (readStream status messages)

end BuildFleet.Rpc
