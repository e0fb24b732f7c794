import BuildFleet.CreationRequest
import BuildFleet.Wire.Field
/-!
# Messages of the provisioning service (`CreateInstanceRequest`, `CreateInstanceResponse`)

The request for an instance and the responses to it, as they travel. A response keeps its status as
the number that was sent, so that statuses of a newer server survive; what they mean here is said by
`Response.toUpdate`: everything but a completion is still pending.
-/
namespace BuildFleet.Wire

structure Request where
  builderType : String
  deriving DecidableEq, Repr

structure Instance where
  instanceId : String
  builderType : String
  deriving DecidableEq, Repr

inductive Status where
  | unknown
  | waiting
  | complete
  deriving DecidableEq, Repr

/-- One response in the stream that answers a request (`CreateInstanceResponse`). -/
structure Response where
  status : Int32
  waitersAhead : Int64
  instance? : Option Instance
  deriving DecidableEq, Repr

namespace Status

/-- Numbers without a meaning count as unknown. -/
def ofNumber (n : Int32) : Status :=
  if n = 1 then waiting else if n = 2 then complete else unknown

def name : Status → String
  | unknown => "Unknown"
  | waiting => "Waiting"
  | complete => "Complete"

end Status

namespace Request

def blank : Request := ⟨""⟩

def ofCreation (r : CreationRequest) : Request := ⟨r.builderType⟩

def encode (r : Request) : List UInt8 := textField 1 r.builderType

def merge : Merge Request := fun tag layout r bytes =>
  if tag = 1 then inField "CreateInstanceRequest.builder_type" do
    let (s, rest) ← readText layout bytes
    return (⟨s⟩, rest)
  else do return (r, ← skipField maxLevels tag layout bytes)

def decode (bytes : List UInt8) : Except Fault Request := Wire.decode merge blank bytes

end Request

namespace Instance

def blank : Instance := ⟨"", ""⟩

def encode (i : Instance) : List UInt8 := textField 1 i.instanceId ++ textField 2 i.builderType

/-- A field of an `Instance`. It stands inside a response, so one level is taken already. -/
def merge : Merge Instance := fun tag layout i bytes =>
  if tag = 1 then inField "Instance.gomote_id" do
    let (s, rest) ← readText layout bytes
    return ({ i with instanceId := s }, rest)
  else if tag = 2 then inField "Instance.builder_type" do
    let (s, rest) ← readText layout bytes
    return ({ i with builderType := s }, rest)
  else do return (i, ← skipField (maxLevels - 1) tag layout bytes)

end Instance

namespace Response

def blank : Response := ⟨0, 0, none⟩

/-- A status is sent with the sign carried up to 64 bits. -/
def statusNumber (status : Int32) : Nat := status.toInt64.toUInt64.toNat

def encode (r : Response) : List UInt8 :=
  numberField 1 (statusNumber r.status) ++ numberField 2 r.waitersAhead.toUInt64.toNat ++
    match r.instance? with
    | some i => delimitedField 3 i.encode
    | none => []

/-- A field of a `CreateInstanceResponse`. The last number of a field wins; a repeated instance is
merged into the one before. -/
def merge : Merge Response := fun tag layout r bytes =>
  if tag = 1 then inField "CreateInstanceResponse.status" do
    let (n, rest) ← readNumber layout bytes
    return ({ r with status := Int32.ofNat n }, rest)
  else if tag = 2 then inField "CreateInstanceResponse.waiters_ahead" do
    let (n, rest) ← readNumber layout bytes
    return ({ r with waitersAhead := Int64.ofNat n }, rest)
  else if tag = 3 then inField "CreateInstanceResponse.instance" do
    let (i, rest) ← mergeMessage Instance.merge layout (r.instance?.getD .blank) bytes
    return ({ r with instance? := some i }, rest)
  else do return (r, ← skipField maxLevels tag layout bytes)

def decode (bytes : List UInt8) : Except Fault Response := Wire.decode merge blank bytes

end Response

/-- Why a completion cannot be used. -/
inductive BadCompletion where
  | noInstance
  | refused (refusal : Refusal)
  deriving DecidableEq, Repr

def BadCompletion.message : BadCompletion → String
  | noInstance => "instance is missing from COMPLETE update"
  | refused refusal => refusal.message

/-- What a response says about its request (`CreationUpdate`). -/
def Response.toUpdate (r : Response) : Except BadCompletion CreationUpdate :=
  match Status.ofNumber r.status with
  | .complete =>
    match r.instance? with
    | none => .error .noInstance
    | some i =>
      match InstanceId.ofText i.instanceId with
      | .error refusal => .error (.refused refusal)
      | .ok id => .ok (.complete id)
  | .waiting | .unknown => .ok (.pending r.waitersAhead)

end BuildFleet.Wire
