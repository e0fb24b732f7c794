import BuildFleet.CommandError
import BuildFleet.Creation.Options
/-!
# Arguments of the create command (`CreateArgs`)
-/
namespace BuildFleet.CommandLine

/-- The arguments of the create command (`CreateArgs`). -/
structure CreateArgs where
  status : Bool := true
  count : Nat := 1
  setup : Bool := false
  newGroup : Option String := none
  allOrNothing : Bool := false
  legacy : Bool := false
  builderType : Option String := none
  deriving DecidableEq, Repr

namespace CreateArgs

/-- Why the arguments ask for something that cannot be done, if they do (`validate`). The coordinator
creates one instance at a time and knows neither groups nor setup. -/
def fault (a : CreateArgs) : Option CommandError :=
  if a.count = 0 then some (.invalidRequest "--count must be at least 1")
  else if !a.legacy then none
  else if a.newGroup.isSome then some (.invalidRequest "--legacy does not support --new-group")
  else if a.setup then some (.invalidRequest "--legacy does not support --setup")
  else if 1 < a.count then some (.invalidRequest "--legacy creates exactly one instance")
  else if a.allOrNothing then
    some (.invalidRequest "--legacy does not support --all-or-nothing")
  else none

/-- What is to be created; nothing without a builder type (`to_options`). -/
def options (a : CreateArgs) : Option Creation.Options :=
  a.builderType.map fun builderType =>
    { builderType
      count := a.count
      setup := a.setup
      showStatus := a.status
      policy := if a.allOrNothing then .allOrNothing else .savePartial }

end CreateArgs

end BuildFleet.CommandLine
