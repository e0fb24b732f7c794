import BuildFleet.Creation.State
import BuildFleet.Setup.Script
/-!
# Runs in time

A run of a creation against a service and setup commands whose behaviour is known beforehand, with
the time that each answer takes. Answers come in the order of time; whatever the program can do by
itself it does before the next answer comes. Only that a task did not survive is found out once the
other tasks have come as far as they can at that time.
-/
namespace BuildFleet.Creation

/-! ## Scripts -/

/-- What the service does next in a stream. -/
inductive Move where
  | wait (millis : Nat)
  | item (item : Provisioning.Item)
  /-- Nothing will ever come. -/
  | hang
  /-- The task does not survive the next item. -/
  | crash

/-- What the service does with a request. -/
structure Script where
  callWait : Nat := 0
  refusal : Option Provisioning.Error := none
  moves : List Move := []

/-- The source tree, and what the setup commands do for each instance. -/
structure SetupScript where
  root : Except Setup.Error String
  command : InstanceId → Setup.Phase → Setup.CommandScript

structure TimedStep where
  time : Nat
  step : TaskStep

/-! ## Timelines -/

/-- The steps of one setup command that is announced at a time. -/
def commandSteps (script : Setup.CommandScript) (time : Nat) : List TimedStep :=
  [⟨time, .setup .announce⟩, ⟨time, .setup .start⟩, ⟨time + script.wait, match script.result with
    | some result => .setup (.finished result)
    | none => .crash "setup"⟩]

/-- The steps of a setup that starts at a time. -/
def setupSteps (script : SetupScript) (id : InstanceId) (time : Nat) : List TimedStep :=
  let push := script.command id .push
  ⟨time, .setup (.resolved script.root)⟩ :: commandSteps push time ++
    commandSteps (script.command id .run) (time + push.wait)

def streamSteps (elapsed : Nat → Span) (setup : SetupScript) (time : Nat) :
    List Move → List TimedStep
  | [] => [⟨time, .streamEnded⟩]
  | .wait millis :: moves => streamSteps elapsed setup (time + millis) moves
  | .hang :: _ => []
  | .crash :: _ => [⟨time, .crash "stream"⟩]
  | .item (.ok (.complete id)) :: _ =>
    ⟨time, .item (.ok (.complete id)) (elapsed time)⟩ :: setupSteps setup id time
  | .item (.ok (.pending ahead)) :: moves =>
    ⟨time, .item (.ok (.pending ahead)) (elapsed time)⟩ :: streamSteps elapsed setup time moves
  | .item (.error e) :: _ => [⟨time, .item (.error e) (elapsed time)⟩]

/-- The steps of a task that starts at time zero. -/
def taskSteps (elapsed : Nat → Span) (setup : SetupScript) (script : Script) : List TimedStep :=
  ⟨0, .call⟩ :: match script.refusal with
    | some e => [⟨script.callWait, .replied (.error e) (elapsed script.callWait)⟩]
    | none =>
      ⟨script.callWait, .replied (.ok ()) (elapsed script.callWait)⟩ ::
        streamSteps elapsed setup script.callWait script.moves

/-- The steps of all tasks in the order of time; what comes at the same time stays in the order of
the tasks. Scripts go to the tasks in order; a task without one gets an empty stream. -/
def timeline (elapsed : Nat → Span) (setup : SetupScript) (count : Nat) (scripts : List Script) :
    List (Nat × TimedStep) :=
  let steps := (List.range count).flatMap fun i =>
    (taskSteps elapsed setup (scripts[i]?.getD {})).map fun s => (i, s)
  steps.mergeSort fun a b => a.2.time ≤ b.2.time

/-! ## Running -/

/-- What a task does by itself, given whether the creation is cancelled. -/
def Task.own (setup : SetupScript) (cancelled : Bool) (t : Task) : Option TaskStep :=
  match t.phase with
  | .failing _ => some .raise
  | .calling | .streaming => if cancelled then some .noticed else none
  | .setup job (.running phase _) =>
    if cancelled && (setup.command job.id phase).observes then some (.setup .noticed) else none
  | _ => none

def findPosition {α β : Type} (f : α → Option β) (position : Nat) : List α → Option (Nat × β)
  | [] => none
  | x :: rest => match f x with
    | some y => some (position, y)
    | none => findPosition f (position + 1) rest

/-- The task did not survive, and nobody knows yet. -/
def Task.isLost (t : Task) : Bool :=
  match t.phase with
  | .ended (.crashed _) => true
  | _ => false

/-- What the program does next by itself, before the end: failures are raised and collected first.
While answers are still to come at the same time (`busy`), a lost task is not found out, and the
results that come after it wait for their turn. -/
def State.own (setup : SetupScript) (busy : Bool) (s : State) : Option Action :=
  let ended (t : Task) : Option Unit := match t.phase with
    | .ended _ => some ()
    | _ => none
  let failing (t : Task) : Option TaskStep := match t.phase with
    | .failing _ => some .raise
    | _ => none
  let collected := if busy && s.tasks.any Task.isLost then none else findPosition ended 0 s.tasks
  match findPosition failing 0 s.tasks, collected, s.channel,
      findPosition (Task.own setup s.cancelled) 0 s.tasks with
  | some (i, step), _, _, _ => some (.task i step)
  | none, some (i, _), _, _ => some (.join i)
  | none, none, _ :: _, _ => some .record
  | none, none, [], some (i, step) => some (.task i step)
  | none, none, [], none => if s.allJoined && !s.drained then some .drain else none

/-- Lets the program do what it can do by itself, for a number of steps. -/
def State.settle (c : Context) (setup : SetupScript) (busy : Bool) (s : State) : Nat → State
  | 0 => s
  | bound + 1 =>
    match (s.own setup busy).bind (s.step c) with
    | some s => settle c setup busy s bound
    | none => s

/-- How many steps the program can make by itself at most: a task notices, raises and is collected,
and each instance is recorded once. -/
def State.ownBound (s : State) : Nat := 3 * s.tasks.length + s.channel.length + 1

/-- Takes a step of a task if it is still possible, and lets the program go on. -/
def State.advance (c : Context) (setup : SetupScript) (busy : Bool) (s : State)
    (entry : Nat × TimedStep) : State :=
  let s := (s.step c (.task entry.1 entry.2.step)).getD s
  s.settle c setup busy s.ownBound

def comesAt (time : Nat) : List (Nat × TimedStep) → Bool
  | [] => false
  | entry :: _ => entry.2.time == time

def State.follow (c : Context) (setup : SetupScript) (s : State) : List (Nat × TimedStep) → State
  | [] => s.settle c setup false s.ownBound
  | entry :: rest => (s.advance c setup (comesAt entry.2.time rest) entry).follow c setup rest

/-- Runs a creation up to where the group is stored. -/
def simulate (c : Context) (elapsed : Nat → Span) (setup : SetupScript) (scripts : List Script)
    (s : State) : State :=
  s.follow c setup (timeline elapsed setup c.options.count scripts)

/-- Ends a creation, with the given way to store the group. -/
def State.close {m : Type → Type} [Monad m] (c : Context)
    (save : Group → m (Except GroupStore.Error Unit)) (s : State) : m State :=
  match s.toStore c with
  | none => pure ((s.step c .finish).getD s)
  | some g => do
    let r ← save g
    return ((s.step c (.store r)).bind (·.step c .finish)).getD s

end BuildFleet.Creation
