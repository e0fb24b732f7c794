import BuildFleet.Refusal
import BuildFleet.Text.Blank
import BuildFleet.Text.Utf8
/-!
# Instance ids (`InstanceId`)

The opaque name that the provisioning service gives to an instance it made. `InstanceId.ofText`
admits every text that is not blank, as it stands.
-/
namespace BuildFleet

/-- The name of a created instance (`InstanceId`). -/
structure InstanceId where
  text : String
  deriving DecidableEq, Repr, Inhabited

namespace InstanceId

/-- The id with the given text, which must not be blank. -/
def ofText (text : String) : Except Refusal InstanceId :=
  if Text.isBlank text then .error .blankInstanceId else .ok ⟨text⟩

theorem ofText_eq_ok_iff {text : String} {id : InstanceId} :
    ofText text = .ok id ↔ Text.isBlank text = false ∧ id = ⟨text⟩ := by
  unfold ofText
  cases h : Text.isBlank text
  · simp [eq_comm]
  · simp

def sort (ids : List InstanceId) : List InstanceId :=
  ids.mergeSort fun a b => Utf8.le a.text b.text

end InstanceId

end BuildFleet
