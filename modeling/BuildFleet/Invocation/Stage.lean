import BuildFleet.CommandError
import BuildFleet.Creation.State
import BuildFleet.GroupStore.Choice
/-!
# Invocations and the group files (`CreateController`)

An invocation finds its group in the files, creates the instances, and stores the group if that is
called for. Its steps are single file operations and the steps of the creation, so between any two of
them another invocation may work on the same files.
-/
namespace BuildFleet

/-- What an invocation is asked to do (`CreateController`), and the directory it gets for the output of a
setup. -/
structure Invocation where
  options : Creation.Options
  choice : GroupStore.Choice
  groupDir : String
  outputDir : Except IoError String

namespace Invocation

/-- How far an invocation has come. -/
inductive Stage where
  | resolving (program : FileProgram (Except GroupStore.Error (Option Group)))
  | creating (context : Creation.Context) (state : Creation.State)
  | saving (context : Creation.Context) (state : Creation.State)
      (program : FileProgram (Except GroupStore.Error Unit))
  /-- The invocation is over; the last state of the creation is there unless it never began. -/
  | returned (result : Except CommandError Creation.Outcome) (last : Option Creation.State)

def start (v : Invocation) : Stage := .resolving (v.choice.fromFiles v.groupDir)

/-- The stage after the group was found. -/
def begin (v : Invocation) : Except GroupStore.Error (Option Group) → Stage
  | .error e => .returned (.error (.group e)) none
  | .ok group =>
    match Creation.prepare v.options v.outputDir with
    | .error e => .returned (.error (.create e)) none
    | .ok context => .creating context (.initial context group .working)

def Stage.ofState (context : Creation.Context) (s : Creation.State) : Stage :=
  match s.closing with
  | .returned result => .returned (result.mapError .create) (some s)
  | _ => .creating context s

inductive Action where
  /-- The next file operation, or what follows from the last one. -/
  | file
  | creation (action : Creation.Action)

/-- The stage and the files after a step on files; `none` where it is not possible. -/
def stepFile (v : Invocation) (files : FileSystem) : Stage → Option (Stage × FileSystem)
  | .resolving (.done group) => some (v.begin group, files)
  | .resolving program =>
    let (program, files) := program.step files
    some (.resolving program, files)
  | .creating context s =>
    match s.closing, s.toStore context with
    | .running, some g =>
      if s.allJoined && s.drained then
        some (.saving context s (GroupStore.Files.store v.groupDir g), files)
      else none
    | _, _ => none
  | .saving context s (.done result) =>
    (s.step context (.store result)).map fun s => (.ofState context s, files)
  | .saving context s program =>
    let (program, files) := program.step files
    some (.saving context s program, files)
  | .returned .. => none

/-- The stage after a step of the creation; `none` where it is not possible. How storing went is not
for the creation to say. -/
def stepCreation : Stage → Creation.Action → Option Stage
  | _, .store _ => none
  | .creating context s, action => (s.step context action).map (.ofState context)
  | _, _ => none

def step (v : Invocation) (files : FileSystem) (stage : Stage) :
    Action → Option (Stage × FileSystem)
  | .file => v.stepFile files stage
  | .creation action => (stepCreation stage action).map fun stage => (stage, files)

def run (v : Invocation) (files : FileSystem) (stage : Stage) :
    List Action → Option (Stage × FileSystem)
  | [] => some (stage, files)
  | a :: actions => (v.step files stage a).bind fun (stage, files) => run v files stage actions

/-- What every step keeps, a run keeps. -/
theorem run_invariant {v : Invocation} {P : Stage → FileSystem → Prop}
    (keeps : ∀ stage files a stage' files', P stage files →
      v.step files stage a = some (stage', files') → P stage' files')
    {stage stage' : Stage} {files files' : FileSystem} {actions : List Action}
    (h : v.run files stage actions = some (stage', files')) (hp : P stage files) :
    P stage' files' := by
  induction actions generalizing stage files with
  | nil =>
    obtain ⟨rfl, rfl⟩ := Prod.mk.inj (Option.some.inj h)
    exact hp
  | cons a actions ih =>
    obtain ⟨⟨stage₁, files₁⟩, hstep, h⟩ := Option.bind_eq_some_iff.1 h
    exact ih h (keeps _ _ a _ _ hp hstep)

end Invocation

end BuildFleet
