import BuildFleet.Setup.Command
import BuildFleet.Setup.Error
import BuildFleet.Text.Blank
/-!
# The source tree to push (`GorootResolver`)

The tree that is configured, or else the one that the Go toolchain names.
-/
namespace BuildFleet.Setup

/-- The command that asks the toolchain for its tree. -/
def askCommand : Command := ⟨"go", ["env", "GOROOT"], none⟩

/-- What the toolchain's answer says. -/
def rootOfAnswer : Except IoError Output → Except Error String
  | .error cause =>
    .error (.sourceRoot ("failed to run 'go env GOROOT': " ++ cause.message))
  | .ok output =>
    if !output.ending.isSuccess then
      .error (.sourceRoot ("'go env GOROOT' exited with " ++ output.ending.message))
    else
      let root := Text.trim (Utf8.decodeLossy output.stdout)
      if root = "" then .error (.sourceRoot "'go env GOROOT' returned an empty path")
      else .ok root

/-- The tree, and the commands that were run to find it (`GorootResolver`). -/
def sourceRoot (configured : Option String) (go : Executable) :
    Except Error String × List Command :=
  match configured with
  | some root => (.ok root, [])
  | none =>
    let answer := askCommand.start go
    (rootOfAnswer answer, if answer.isOk then [askCommand] else [])

end BuildFleet.Setup
