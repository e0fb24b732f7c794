import BuildFleet.Catalog
import BuildFleet.Coordinator.Events
import BuildFleet.Creation.Error
/-!
# Errors of a command (`GomoteError`)

What a command can fail with, whichever part of it failed. The message of an error ends with the
message of its cause, so one line tells all.
-/
namespace BuildFleet

inductive CommandError where
  | invalidRequest (detail : String)
  | create (cause : Creation.Error)
  | coordinator (cause : Coordinator.Error)
  | catalog (cause : Catalog.Error)
  | group (cause : GroupStore.Error)
  /-- Work on a thread of its own was lost. -/
  | background (detail : String)
  deriving DecidableEq

namespace CommandError

/-- A fixed code for each kind of error (`error_code`). -/
def code : CommandError → String
  | invalidRequest _ => "INVALID_REQUEST"
  | create _ => "CREATE_FAILED"
  | coordinator _ => "LEGACY_CREATE_FAILED"
  | catalog _ => "CATALOG_UNAVAILABLE"
  | group _ => "GROUP_ERROR"
  | background _ => "INTERNAL_ERROR"

def message : CommandError → String
  | invalidRequest detail => "Invalid request: " ++ detail
  | create cause => cause.message
  | coordinator cause => cause.message
  | catalog cause => "fetching builder types: " ++ cause.message
  | group cause => cause.message
  | background detail => "Background task failed: " ++ detail

/-- The line that a failed command prints (`render_error`). -/
def render (e : CommandError) : String := "gomote: " ++ e.message

end CommandError

end BuildFleet
