import BuildFleet.CommandLine.Perform
/-!
# The program

Reads the command line and the environment, carries the command out on the real files and prints
what comes of it. There is no network here, so the servers are out of reach.
-/
namespace BuildFleet

def IoError.ofSystem : IO.Error → IoError
  | .noFileOrDirectory .. => .notFound
  | .permissionDenied .. => .permissionDenied
  | .alreadyExists .. => .alreadyExists
  | .inappropriateType _ code _ => if code = 21 then .isADirectory else .notADirectory
  | .invalidArgument _ code detail => if code = 36 then .nameTooLong else .other detail
  | e => .other (toString e)

def attempt {α : Type} (act : IO α) : IO (Except IoError α) := do
  return (← act.toBaseIO).mapError IoError.ofSystem

def FileProgram.perform {α : Type} : FileProgram α → IO α
  | done a => return a
  | probe path next => do
    match ← attempt (IO.FS.Handle.mk path .read) with
    | .ok _ => (next (.ok true)).perform
    | .error .notFound => (next (.ok false)).perform
    | .error e => (next (.error e)).perform
  | read path next => do
    let content ← attempt (IO.FS.readBinFile path)
    (next (content.map (·.data.toList))).perform
  | makeDirs path next => do
    let made ← attempt (IO.FS.createDirAll path)
    (next made).perform
  | write path content next => do
    let written ← attempt (IO.FS.writeBinFile path ⟨content.toArray⟩)
    (next written).perform

/-- The environment, as far as settings are read from it. -/
def environment : IO (String → Option String) := do
  let names := ["GOMOTE_SERVER_ADDR", "GOMOTE_COORDINATOR_URL", "GOMOTE_BUILDERS_URL",
    "GOMOTE_GROUP", "GOMOTE_GROUP_DIR", "GOMOTE_BIN", "GOROOT", "XDG_CONFIG_HOME", "HOME"]
  let settings ← names.filterMapM fun name => do
    return (← IO.getEnv name).map fun value => (name, value)
  return fun name => settings.lookup name

/-- A token that is used once: some random bytes, in hexadecimal digits. -/
def freshToken : IO String := do
  let bytes ← IO.getRandomBytes 16
  return String.join (bytes.data.toList.map fun b =>
    String.ofList [Text.hexDigit (b.toNat / 16), Text.hexDigit (b.toNat % 16)])

end BuildFleet

open BuildFleet in
def main (words : List String) : IO UInt32 := do
  let tempDir := (← IO.getEnv "TMPDIR").getD "/tmp"
  let config := Config.ofEnvironment (← environment) tempDir
  let surroundings := Surroundings.offline (config.goroot.getD "") tempDir (← freshToken)
  match ← (CommandLine.run config surroundings words).perform with
  | none => return 1
  | some exit =>
    (← IO.getStdout).putStr exit.stdout
    (← IO.getStderr).putStr exit.stderr
    return UInt32.ofNat exit.code
