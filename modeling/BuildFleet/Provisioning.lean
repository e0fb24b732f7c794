import BuildFleet.Rpc.Call
import BuildFleet.ServerName
/-!
# Provisioning (`ProvisioningRepository`)

What a task that asks for an instance gets to see: updates and errors, in the order of the
service's responses. An update that cannot be used is an error of its own, and what comes after it
can still be read.
-/
namespace BuildFleet.Provisioning

inductive Error where
  | connection (detail : String)
  /-- The call or its stream ended with a failure. -/
  | rpc (detail : String)
  | protocol (detail : String)
  deriving DecidableEq, Repr

namespace Error

def message : Error → String
  | connection detail => "connecting to provisioning service: " ++ detail
  | rpc detail => detail
  | protocol detail => "malformed update: " ++ detail

def ofStatus (s : Rpc.Status) : Error :=
  .rpc ("rpc error: code = " ++ s.code.name ++ " desc = " ++ s.message)

end Error

abbrev Item := Except Error CreationUpdate

/-- What one response of the service is to the task (`into_updates`). -/
def itemOfResponse : Except Rpc.Status Wire.Response → Item
  | .ok response =>
    match response.toUpdate with
    | .ok update => .ok update
    | .error bad => .error (.protocol bad.message)
  | .error status => .error (.ofStatus status)

def itemsOfReply (reply : Rpc.Reply) : Except Error (List Item) :=
  match reply.items with
  | .ok responses => .ok (responses.map itemOfResponse)
  | .error status => .error (.ofStatus status)

/-- An address that asks for a secure connection. The scheme counts in lower case only. -/
def isSecure (address : List UInt8) : Bool := (Utf8.encode "https://").isPrefixOf address

/-- Why no connection to an address can be set up (`connect`). Nothing is contacted for that, but a secure
connection needs a host whose identity can be checked. -/
def connectFault (address : String) : Option Error :=
  let bytes := Utf8.encode address
  if (Uri.shape? bytes).isNone then some (.connection (address ++ ": invalid URI"))
  else if isSecure bytes && !(Uri.host? bytes).any ServerName.isValid then
    some (.connection (address ++ ": transport error"))
  else none

/-- The end of a call where nothing can be reached. An address without a scheme cannot be called at
all. -/
def unreachable (address : String) : Rpc.Status :=
  if Uri.shape? (Utf8.encode address) = some .absolute then
    ⟨.unavailable, "error trying to connect: tcp connect error: " ++
      "Network is unreachable (os error 101)"⟩
  else ⟨.unknown, "transport error"⟩

end BuildFleet.Provisioning
