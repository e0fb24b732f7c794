import BuildFleet.InstanceId
/-!
# Creation requests (`CreationRequest`, `CreationUpdate`)

What is asked of the provisioning service, one instance of a builder type, and what it answers
while the request is served.
-/
namespace BuildFleet

structure CreationRequest where
  builderType : String
  deriving DecidableEq, Repr

/-- A request for the given builder type, which must not be blank (`CreationRequest`). -/
def CreationRequest.ofBuilderType (builderType : String) : Except Refusal CreationRequest :=
  if Text.isBlank builderType then .error .blankBuilderType else .ok ⟨builderType⟩

/-- What the service reports about a request (`CreationUpdate`). -/
inductive CreationUpdate where
  /-- The request waits behind `waitersAhead` others. -/
  | pending (waitersAhead : Int64)
  | complete (id : InstanceId)
  deriving DecidableEq, Repr

end BuildFleet
