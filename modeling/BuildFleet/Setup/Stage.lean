import BuildFleet.BuilderType
import BuildFleet.InstanceId
import BuildFleet.Setup.Error
import BuildFleet.Text.Quoted
/-!
# The course of a setup (`SetupService`)

A setup finds the source tree, pushes it and runs the build script, one after the other; what fails
ends it. Where several instances are set up at once each command is announced by a line, since its
own output is not shown, and what the build script wrote is saved once it has ended; a cancellation
stops a command that is running, and not the saving. Between two steps anything else may happen, so
a setup is given as a transition on stages; steps that depend on the outside carry its answer.
-/
namespace BuildFleet.Setup

structure Job where
  id : InstanceId
  builderType : String
  /-- Where the output of the build script goes. -/
  outputDir : String
  /-- The commands' own output is shown. -/
  detailed : Bool
  deriving DecidableEq, Repr

inductive Stage where
  | resolving
  /-- The next command is about to be announced. -/
  | announcing (phase : Phase) (root : String)
  /-- The next command is about to be started. -/
  | starting (phase : Phase) (root : String)
  | running (phase : Phase) (root : String)
  /-- The build script has ended, and what it wrote is being saved. -/
  | saving (root : String)
  | ended (result : Except Error Unit)

inductive Call where
  | push (id : InstanceId) (root : String) (detailed : Bool)
  | run (id : InstanceId) (outputDir script : String) (args : List String) (detailed : Bool)
  deriving DecidableEq, Repr

inductive Effect where
  | notice (phase : Phase) (line : String)
  | call (call : Call)
  deriving DecidableEq, Repr

inductive Step where
  | resolved (result : Except Error String)
  | announce
  | start
  /-- The build script has ended; its result is held back until what it wrote is saved. -/
  | exited
  | finished (result : Except Error Unit)
  /-- The command is given up because the creation was cancelled. -/
  | noticed

/-- The line that announces a command. -/
def Job.notice (job : Job) (root : String) : Phase → String
  | .push => "# Pushing GOROOT " ++ Text.quoted root ++ " to " ++ Text.quoted job.id.text ++ "..."
  | .run =>
    "# Running " ++ Text.quoted (buildScript job.builderType) ++ " on " ++
      Text.quoted job.id.text ++ "..."

def Job.call (job : Job) (root : String) : Phase → Call
  | .push => .push job.id root job.detailed
  | .run => .run job.id job.outputDir (buildScript job.builderType) [] job.detailed

def Stage.after (root : String) : Phase → Except Error Unit → Stage
  | _, .error e => .ended (.error e)
  | .push, .ok () => .announcing .run root
  | .run, .ok () => .ended (.ok ())

/-- The effects of a step and the stage after it (`setup_instance`); `none` where the step is not
possible. -/
def Stage.step (job : Job) (cancelled : Bool) : Stage → Step → Option (Stage × List Effect)
  | resolving, .resolved (.ok root) => some (announcing .push root, [])
  | resolving, .resolved (.error e) => some (ended (.error e), [])
  | announcing phase root, .announce =>
    some (starting phase root,
      if job.detailed then [] else [.notice phase (job.notice root phase)])
  | starting phase root, .start => some (running phase root, [.call (job.call root phase)])
  | running phase root, .exited =>
    if phase = .run ∧ job.detailed = false then some (saving root, []) else none
  | running phase root, .finished result => some (.after root phase result, [])
  | saving root, .finished result => some (.after root .run result, [])
  | running phase _, .noticed =>
    if cancelled then some (ended (.error (.cancelled phase job.id.text)), []) else none
  | _, _ => none

end BuildFleet.Setup
