import BuildFleet.FileSystem
import BuildFleet.Refusal
/-!
# Errors of group stores (`GroupError`)
-/
namespace BuildFleet.GroupStore

inductive Error where
  | invalid (refusal : Refusal)
  | alreadyExists (name : String)
  | notFound (name : String)
  | io (path : String) (cause : IoError)
  /-- The file does not hold a group. -/
  | unreadable (path detail : String)
  | storage (detail : String)
  deriving DecidableEq, Repr

def Error.message : Error → String
  | invalid refusal => "invalid group: " ++ refusal.message
  | alreadyExists name => "group " ++ Text.quoted name ++ " already exists"
  | notFound name => "group " ++ Text.quoted name ++ " does not exist"
  | io path cause => "group file " ++ path ++ ": " ++ cause.message
  | unreadable path detail => "group file " ++ path ++ ": " ++ detail
  | storage detail => "Storage error: " ++ detail

end BuildFleet.GroupStore
