import BuildFleet.Elapsed
import BuildFleet.GroupStore.Error
import BuildFleet.InstanceId
import BuildFleet.Provisioning
import BuildFleet.Setup.Error
/-!
# Errors of creating instances (`CreateError`)

What stops a creation. Errors of a single task carry the ordinal of the task, counted from one.
-/
namespace BuildFleet.Creation

/-- Why instances were not created, or not recorded. -/
inductive Error where
  | invalidCount (count : Nat)
  | invalidRequest (refusal : Refusal)
  | connect (cause : Provisioning.Error)
  | outputDir (cause : IoError)
  | request (index : Nat) (builderType : String) (elapsed : Span) (cause : Provisioning.Error)
  | streamEnded (index : Nat)
  | cancelled (index : Nat)
  | setup (index : Nat) (id : InstanceId) (cause : Setup.Error)
  /-- A task did not survive. -/
  | crashed (detail : String)
  | saving (cause : GroupStore.Error)
  deriving DecidableEq

namespace Error

def message : Error → String
  | invalidCount count => "count must be at least 1, got " ++ toString count
  | invalidRequest refusal => "invalid create request: " ++ refusal.message
  | connect cause => cause.message
  | outputDir cause => "creating setup output directory: " ++ cause.message
  | request index builderType elapsed cause =>
    "failed to create buildlet (" ++ toString index ++ ") of type " ++ builderType ++ " after " ++
      elapsed.render ++ ": " ++ cause.message
  | streamEnded index =>
    "buildlet (" ++ toString index ++ ") creation stream ended without an instance"
  | cancelled index => "buildlet (" ++ toString index ++ ") creation cancelled"
  | setup index id cause =>
    "setting up buildlet (" ++ toString index ++ ") " ++ id.text ++ ": " ++ cause.message
  | crashed detail => "creation task panicked: " ++ detail
  | saving cause => "saving group: " ++ cause.message

/-- A task ended only because another one had failed (`is_cancellation`). -/
def isCancellation : Error → Bool
  | cancelled _ => true
  | setup _ _ cause => cause.isCancellation
  | _ => false

/-- The ordinal of the task that failed, where there is one. -/
def index? : Error → Option Nat
  | request index .. => some index
  | streamEnded index => some index
  | cancelled index => some index
  | setup index .. => some index
  | _ => none

end Error

end BuildFleet.Creation
