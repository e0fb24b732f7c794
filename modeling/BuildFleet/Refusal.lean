import BuildFleet.Text.Quoted
/-!
# Refusals (`CoreError`)

Why a value of the domain cannot be formed: the checks on instance ids, builder types and group
names, and the rule that a group lists an instance once.
-/
namespace BuildFleet

/-- Why a value of the domain was refused (`CoreError`). -/
inductive Refusal where
  | blankInstanceId
  | blankBuilderType
  | blankGroupName
  /-- The name could be taken for a path. -/
  | groupNameIsPath (name : String)
  | duplicateInstance (group instanceId : String)
  deriving DecidableEq, Repr

namespace Refusal

def message : Refusal → String
  | blankInstanceId => "Invalid instance ID: Instance ID cannot be empty"
  | blankBuilderType => "Invalid builder type: Builder type cannot be empty"
  | blankGroupName => "Invalid group name: Group name cannot be empty"
  | groupNameIsPath name =>
    "Invalid group name: Group name " ++ Text.quoted name ++ " must not contain path separators"
  | duplicateInstance group instanceId =>
    "Instance " ++ instanceId ++ " is already in group " ++ group

end Refusal

end BuildFleet
