import BuildFleet.Catalog
import BuildFleet.Creation.Schedule
/-!
# What a command meets

The servers, the setup commands and the clock that a command deals with, apart from its files. Where
there is no network (`Surroundings.offline`) no server answers.
-/
namespace BuildFleet

/-- What a command meets outside of itself. -/
structure Surroundings where
  /-- The answer to a request for the catalog at a URL. -/
  catalog : String → Http.Answer
  /-- The answer of a coordinator at a URL to a request for a builder type. -/
  coordinator : String → String → Http.Answer
  /-- What the service at an address does with the request of a task. -/
  provisioning : String → Nat → Creation.Script
  setup : Creation.SetupScript
  /-- The time that has passed at a moment of the run. -/
  elapsed : Nat → Span
  /-- Where temporary files go. -/
  tempDir : String
  /-- A name that has never been used. -/
  token : String

/-- Surroundings in which no server can be reached, so that nothing is ever set up. -/
def Surroundings.offline (root tempDir token : String) : Surroundings where
  catalog := .unreachable
  coordinator url _ := .unreachable url
  provisioning address _ := { refusal := some (.ofStatus (Provisioning.unreachable address)) }
  setup := ⟨.ok root, fun _ _ => {}⟩
  elapsed _ := .zero
  tempDir := tempDir
  token := token

end BuildFleet
