import BuildFleet.Creation.Error
import BuildFleet.CreationRequest
import BuildFleet.Group
/-!
# What is to be created (`CreateOptions`)
-/
namespace BuildFleet.Creation

/-- What happens to the group when some of the creations fail (`GroupCommitPolicy`). -/
inductive CommitPolicy where
  | savePartial
  /-- The group is saved only if everything was created and set up. -/
  | allOrNothing
  deriving DecidableEq, Repr

/-- A request for a number of instances of one builder type (`CreateOptions`). -/
structure Options where
  builderType : String
  count : Nat := 1
  setup : Bool := false
  showStatus : Bool := true
  policy : CommitPolicy := .savePartial
  deriving DecidableEq, Repr

/-- The output of the setup commands is shown as it comes when there is a single instance
(`detailed_progress`). -/
def Options.detailed (o : Options) : Bool := o.count == 1

/-- What a creation in which everything succeeded leaves (`CreateOutcome`). -/
structure Outcome where
  /-- The instances in the order in which they were completed. -/
  instances : List InstanceId
  group : Option Group
  deriving DecidableEq, Repr

end BuildFleet.Creation
