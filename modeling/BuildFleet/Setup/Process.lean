import BuildFleet.InstanceId
import BuildFleet.Setup.Command
import BuildFleet.Setup.Error
import BuildFleet.Text.Lines
/-!
# Setup by commands (`ProcessSetupRepository`)

An instance is set up by a program that can push to it and run commands on it. With detailed
progress the program shares the terminal. Otherwise its output is captured: what a run wrote is
saved whole as `<instance>.log`, whether it succeeded or not, and the end of what a failed command
had to complain about goes into the error.
-/
namespace BuildFleet.Setup

/-- What became of a command. -/
inductive Launch where
  | notStarted (cause : IoError)
  | ended (output : Output)
  /-- The creation was cancelled before the command ended. -/
  | interrupted

/-- The command that copies a source tree to an instance. -/
def pushCommand (bin : String) (id : InstanceId) (root : String) : Command :=
  ⟨bin, ["push", id.text], some root⟩

def runCommand (bin : String) (id : InstanceId) (command : String) (args : List String) : Command :=
  ⟨bin, "run" :: id.text :: command :: args, none⟩

def logPath (outputDir : String) (id : InstanceId) : String :=
  Path.join outputDir (id.text ++ ".log")

/-- How many lines of complaint go into an error. -/
def tailLength : Nat := 5

/-- The last lines of what was written, malformed text replaced (`check_status`). -/
def tail (stderr : List UInt8) : String :=
  let lines := Text.lines (Utf8.decodeLossy stderr)
  "\n".intercalate (lines.drop (lines.length - tailLength))

/-- What is said about a command that failed with its output captured (`check_status`). -/
def failureDetail (output : Output) (log : Option String) : String :=
  output.ending.message ++
    (match log with
      | some path => " (output saved to " ++ path ++ ")"
      | none => "") ++
    (if tail output.stderr = "" then "" else "\n" ++ tail output.stderr)

/-- The result of a command that shared the terminal. -/
def detailedResult (phase : Phase) (id : InstanceId) (output : Output) : Except Error Unit :=
  if output.ending.isSuccess then .ok ()
  else .error (.failed phase id.text output.ending.message)

/-- The result of a command whose output was captured. -/
def capturedResult (phase : Phase) (id : InstanceId) (log : Option String) (output : Output) :
    Except Error Unit :=
  if output.ending.isSuccess then .ok ()
  else .error (.failed phase id.text (failureDetail output log))

/-- Saves what a command wrote, if there is a place for it. -/
def saveLog (fs : FileSystem) (output : Output) : Option String → Except IoError Unit × FileSystem
  | none => (.ok (), fs)
  | some path => fs.write path (output.stdout ++ output.stderr)

/-- Carries a command through, given what becomes of it (`execute`). -/
def execute (phase : Phase) (id : InstanceId) (detailed : Bool) (log : Option String)
    (launch : Launch) (fs : FileSystem) : Except Error Unit × FileSystem :=
  match launch with
  | .notStarted cause => (.error (.spawn phase cause), fs)
  | .interrupted => (.error (.cancelled phase id.text), fs)
  | .ended output =>
    if detailed then (detailedResult phase id output, fs)
    else match saveLog fs output log with
      | (.error cause, fs) => (.error (.io cause), fs)
      | (.ok (), fs) => (capturedResult phase id log output, fs)

/-- Pushes to an instance (`push`). No log is kept of that. -/
def push (id : InstanceId) (detailed : Bool) (launch : Launch) (fs : FileSystem) :
    Except Error Unit × FileSystem :=
  execute .push id detailed none launch fs

/-- Runs a command on an instance (`run`), with a log in the output directory. -/
def run (id : InstanceId) (outputDir : String) (detailed : Bool) (launch : Launch)
    (fs : FileSystem) : Except Error Unit × FileSystem :=
  execute .run id detailed (some (logPath outputDir id)) launch fs

end BuildFleet.Setup
