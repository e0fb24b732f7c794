import BuildFleet.CommandLine.Parse
import BuildFleet.Config
import BuildFleet.Coordinator.Create
import BuildFleet.Invocation.Stage
import BuildFleet.Setup.OutputDir
import BuildFleet.Surroundings
/-!
# Carrying out a command line (`App`)

Without a builder type the usage is shown, with the types of the catalog. Otherwise instances are
created, through the coordinator or by the provisioning service. A command ends with an exit code or
an error, and an error is printed as one line.
-/
namespace BuildFleet.CommandLine

/-- How a command ended: its exit code or what it failed with, and what it printed on the way. -/
structure Report where
  result : Except CommandError Nat
  console : Console

/-- Shows the usage. That is a failure, since nothing was created. -/
def showUsage (config : Config) (w : Surroundings) : Report :=
  match Catalog.usage createUsage (Catalog.ofAnswer (w.catalog config.buildersUrl)) with
  | .error e => ⟨.error (.catalog e), .working⟩
  | .ok text => ⟨.ok 1, Console.working.status (Text.trimEnd text)⟩

def askCoordinator (config : Config) (w : Surroundings) (options : Creation.Options) : Report :=
  let server := Coordinator.Server.ofHttp
    (w.coordinator (Coordinator.createUrl config.coordinatorUrl))
  let run := Coordinator.create server (fun _ => w.elapsed 0) config.activeGroup
    options.builderType options.showStatus .working
  ⟨match run.result with
    | .returned (.ok _) => .ok 0
    | .returned (.error e) => .error (.coordinator e)
    | .crashed => .error (.background "task panicked"), run.console⟩

/-- Makes the directory for the output of the setup where a creation comes to need it. -/
def prepareOutputDir (w : Surroundings) (options : Creation.Options) :
    FileProgram (Except IoError String) :=
  match Creation.prepare options (.ok (Setup.outputDirPath w.tempDir w.token)) with
  | .ok ⟨_, some _⟩ => Setup.makeOutputDir w.tempDir w.token
  | _ => .done (.ok "")

/-- Runs a creation to its end, up to the group's file. -/
def runCreation (w : Surroundings) (v : Invocation) (address : String) (c : Creation.Context)
    (s : Creation.State) : FileProgram Invocation.Stage := do
  let scripts := (List.range c.options.count).map (w.provisioning address)
  let s := Creation.simulate c w.elapsed w.setup scripts s
  return .ofState c (← s.close c (GroupStore.Files.store v.groupDir))

def reportOf : Invocation.Stage → Option Report
  | .returned result last =>
    some ⟨result.map fun _ => 0, (last.map Creation.State.console).getD .working⟩
  | _ => none

/-- Creates instances by the provisioning service and records them in the group; `none` where the
service keeps the creation waiting forever. -/
def createInstances (config : Config) (w : Surroundings) (options : Creation.Options)
    (newGroup : Option String) : FileProgram (Option Report) :=
  match Provisioning.connectFault config.serverAddr with
  | some e => .done (some ⟨.error (.create (.connect e)), .working⟩)
  | none => do
    let choice := GroupStore.Choice.of config.activeGroup newGroup
    let group ← choice.fromFiles config.groupDir
    let outputDir ← if group.isOk then prepareOutputDir w options else .done (.ok "")
    let v : Invocation := ⟨options, choice, config.groupDir, outputDir⟩
    match v.begin group with
    | .creating c s => return reportOf (← runCreation w v config.serverAddr c s)
    | stage => return reportOf stage

/-- Carries out the create command; `none` where it never ends. -/
def perform (config : Config) (w : Surroundings) (args : CreateArgs) :
    FileProgram (Option Report) :=
  match args.options with
  | none => .done (some (showUsage config w))
  | some options =>
    match args.fault with
    | some e => .done (some ⟨.error e, .working⟩)
    | none =>
      if args.legacy then .done (some (askCoordinator config w options))
      else createInstances config w options args.newGroup

/-! ## The whole program -/

/-- What the program leaves behind, its files apart. -/
structure Exit where
  code : Nat
  stdout : String
  stderr : String
  deriving DecidableEq, Repr

/-- A failed command prints its error. -/
def Report.exit (r : Report) : Exit :=
  match r.result with
  | .ok code => ⟨code, r.console.out.text, r.console.err.text⟩
  | .error e =>
    let console := r.console.status e.render
    ⟨1, console.out.text, console.err.text⟩

/-- What was asked for is output, and all else a complaint. -/
def Stop.exit (s : Stop) : Exit :=
  if s.exitCode = 0 then ⟨0, s.text, ""⟩ else ⟨s.exitCode, "", s.text⟩

/-- Carries out a command line without the program's name; `none` where it never ends. -/
def run (config : Config) (w : Surroundings) (words : List String) : FileProgram (Option Exit) :=
  match read words with
  | .error stop => .done (some stop.exit)
  | .ok args => do return (← perform config w args).map Report.exit

end BuildFleet.CommandLine
