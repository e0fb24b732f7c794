import BuildFleet.FileSystem
/-!
# Errors of setting up an instance (`SetupError`)
-/
namespace BuildFleet.Setup

/-- The two commands of a setup, as its errors name them (`SetupError`). -/
inductive Phase where
  /-- The source tree is copied to the instance. -/
  | push
  /-- The build script runs on the instance. -/
  | run
  deriving DecidableEq, Repr

def Phase.name : Phase → String
  | push => "push"
  | run => "run"

inductive Error where
  | sourceRoot (detail : String)
  | spawn (phase : Phase) (cause : IoError)
  | failed (phase : Phase) (instanceId detail : String)
  | cancelled (phase : Phase) (instanceId : String)
  | io (cause : IoError)
  deriving DecidableEq, Repr

namespace Error

def message : Error → String
  | sourceRoot detail => "failed to resolve GOROOT: " ++ detail
  | spawn phase cause => "failed to start " ++ phase.name ++ ": " ++ cause.message
  | failed phase instanceId detail =>
    phase.name ++ " on " ++ instanceId ++ " failed: " ++ detail
  | cancelled phase instanceId => phase.name ++ " on " ++ instanceId ++ " cancelled"
  | io cause => "setup I/O error: " ++ cause.message

/-- The setup ended because it was told to (`is_cancellation`). -/
def isCancellation : Error → Bool
  | cancelled .. => true
  | _ => false

end Error

end BuildFleet.Setup
