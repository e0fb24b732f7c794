import BuildFleet.Creation.Options
import BuildFleet.Setup.Stage
/-!
# The course of one creation (`create_one`)

A task asks for an instance, reads updates until one completes the request, hands the instance over
and sets it up if that is wanted. A cancellation is noticed wherever the task waits for the service,
and by the commands of the setup.

A task that fails first reaches `failing`; raising the cancellation for the others is a step of its
own. A task that does not survive raises nothing.
-/
namespace BuildFleet.Creation

inductive TaskResult where
  | succeeded
  | failed (error : Error)
  | crashed (detail : String)
  deriving DecidableEq

inductive Phase where
  | idle
  | calling
  | streaming
  | setup (job : Setup.Job) (stage : Setup.Stage)
  /-- The task has failed, and the others do not know yet. -/
  | failing (error : Error)
  | ended (result : TaskResult)
  | joined (result : TaskResult)

def Phase.isOver : Phase → Bool
  | ended _ | joined _ => true
  | _ => false

/-- A task, and the instance it was given if there is one. -/
structure Task where
  phase : Phase
  given : Option InstanceId

def Task.fresh : Task := ⟨.idle, none⟩

/-- A step of a task. Steps that depend on the service carry its answer and the time since the
task's start. -/
inductive TaskStep where
  | call
  | replied (result : Except Provisioning.Error Unit) (elapsed : Span)
  | item (item : Provisioning.Item) (elapsed : Span)
  | streamEnded
  | setup (step : Setup.Step)
  | noticed
  /-- The others are told that the task has failed. -/
  | raise
  | crash (detail : String)

/-- What a step of a task does to the outside. -/
inductive Effect where
  | request (builderType : String)
  | waiting (line : String)
  /-- An instance is handed to the recorder. -/
  | created (id : InstanceId)
  | setup (effect : Setup.Effect)
  | cancel
  deriving DecidableEq

/-- What all tasks of a creation share (`TaskContext`). -/
structure Context where
  options : Options
  /-- The directory for the output of the setup; there is none without setup. -/
  outputDir : Option String
  deriving DecidableEq

/-- The line about a request that is still waiting (`create_one`). -/
def Context.waitingLine (c : Context) (index : Nat) (elapsed : Span) (ahead : Int64) : String :=
  "# still creating " ++ c.options.builderType ++ " (" ++ toString index ++ ") after " ++
    elapsed.render ++ "; " ++ toString ahead.toInt ++ " requests ahead of you"

def Context.job (c : Context) (dir : String) (id : InstanceId) : Setup.Job :=
  ⟨id, c.options.builderType, dir, c.options.detailed⟩

/-- The phase after an instance was created. -/
def Context.afterCompletion (c : Context) (id : InstanceId) : Phase :=
  match c.outputDir with
  | none => .ended .succeeded
  | some dir => .setup (c.job dir id) .resolving

def setupPhase (index : Nat) (job : Setup.Job) : Setup.Stage → Phase
  | .ended (.ok ()) => .ended .succeeded
  | .ended (.error e) => .failing (.setup index job.id e)
  | stage => .setup job stage

def Context.onItem (c : Context) (index : Nat) (elapsed : Span) (given : Option InstanceId) :
    Provisioning.Item → Task × List Effect
  | .error e => (⟨.failing (.request index c.options.builderType elapsed e), given⟩, [])
  | .ok (.pending ahead) =>
    (⟨.streaming, given⟩,
      if c.options.showStatus then [.waiting (c.waitingLine index elapsed ahead)] else [])
  | .ok (.complete id) => (⟨c.afterCompletion id, some id⟩, [.created id])

/-- The effects of a step of the task with an ordinal, and the task after it (`create_one`); `none` where
the step is not possible. -/
def Task.step (c : Context) (index : Nat) (cancelled : Bool) (t : Task) :
    TaskStep → Option (Task × List Effect)
  | .call =>
    match t.phase with
    | .idle => some (⟨.calling, t.given⟩, [.request c.options.builderType])
    | _ => none
  | .replied result elapsed =>
    match t.phase, result with
    | .calling, .ok () => some (⟨.streaming, t.given⟩, [])
    | .calling, .error e =>
      some (⟨.failing (.request index c.options.builderType elapsed e), t.given⟩, [])
    | _, _ => none
  | .item item elapsed =>
    match t.phase with
    | .streaming => some (c.onItem index elapsed t.given item)
    | _ => none
  | .streamEnded =>
    match t.phase with
    | .streaming => some (⟨.failing (.streamEnded index), t.given⟩, [])
    | _ => none
  | .setup step =>
    match t.phase with
    | .setup job stage =>
      (stage.step job cancelled step).map fun (stage, effects) =>
        (⟨setupPhase index job stage, t.given⟩, effects.map .setup)
    | _ => none
  | .noticed =>
    match t.phase with
    | .idle | .calling | .streaming =>
      if cancelled then some (⟨.failing (.cancelled index), t.given⟩, []) else none
    | _ => none
  | .raise =>
    match t.phase with
    | .failing e => some (⟨.ended (.failed e), t.given⟩, [.cancel])
    | _ => none
  | .crash detail =>
    match t.phase with
    | .calling | .streaming | .setup .. => some (⟨.ended (.crashed detail), t.given⟩, [])
    | _ => none

end BuildFleet.Creation
