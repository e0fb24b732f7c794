import BuildFleet.Console
import BuildFleet.Creation.Task
/-!
# A creation of several instances (`CreateService`)

Tasks run side by side. Each hands the instance it was given to the recorder, which alone prints ids
and fills the group. The results of tasks are collected in the order in which they end; the first
failure is kept, and a failure that is only a consequence of the cancellation gives way to one that
is not. When all tasks have been collected and nothing is left to record, the group is stored if the
policy says so, and the creation returns.

Any interleaving of these steps is a run. `State.step` gives the state after a step where the step is
possible, and `State.run` that after a list of steps.
-/
namespace BuildFleet.Creation

/-- What has happened, as the outside can see it. -/
inductive Event where
  | requested (index : Nat) (builderType : String)
  | waiting (index : Nat) (line : String)
  | created (index : Nat) (id : InstanceId)
  | recorded (id : InstanceId)
  | notice (index : Nat) (phase : Setup.Phase) (line : String)
  | called (index : Nat) (call : Setup.Call)
  | stored (group : Group)
  deriving DecidableEq

/-- How far the end of a creation has come. -/
inductive Closing where
  /-- Tasks may still run. -/
  | running
  | stored (result : Except GroupStore.Error Unit)
  | returned (result : Except Error Outcome)

structure State where
  tasks : List Task
  /-- Instances that were handed over and are not recorded yet. -/
  channel : List InstanceId
  recorded : List InstanceId
  group : Option Group
  /-- The recorder has seen the last instance. -/
  drained : Bool
  cancelled : Bool
  firstError : Option Error
  closing : Closing
  console : Console
  events : List Event

inductive Action where
  | task (position : Nat) (step : TaskStep)
  | record
  | drain
  | join (position : Nat)
  | store (result : Except GroupStore.Error Unit)
  | finish

namespace State

def initial (c : Context) (group : Option Group) (console : Console) : State where
  tasks := List.replicate c.options.count .fresh
  channel := []
  recorded := []
  group := group
  drained := false
  cancelled := false
  firstError := none
  closing := .running
  console := console
  events := []

def effect (s : State) (index : Nat) : Effect → State
  | .request builderType => { s with events := s.events ++ [.requested index builderType] }
  | .waiting line =>
    { s with console := s.console.status line, events := s.events ++ [.waiting index line] }
  | .created id =>
    { s with channel := s.channel ++ [id], events := s.events ++ [.created index id] }
  | .setup (.notice phase line) =>
    { s with console := s.console.status line, events := s.events ++ [.notice index phase line] }
  | .setup (.call call) => { s with events := s.events ++ [.called index call] }
  | .cancel => { s with cancelled := true }

def errorOf : TaskResult → Option Error
  | .succeeded => none
  | .failed e => some e
  | .crashed detail => some (.crashed detail)

/-- The error to report after another one was found (`create`): the first, unless that was only a
consequence of the cancellation and the other is not. -/
def keep (first : Option Error) (error : Error) : Option Error :=
  match first with
  | none => some error
  | some e => if e.isCancellation && !error.isCancellation then some error else some e

def allJoined (s : State) : Bool :=
  s.tasks.all fun t => match t.phase with
    | .joined _ => true
    | _ => false

/-- The group to store at the end, if any. -/
def toStore (c : Context) (s : State) : Option Group :=
  match c.options.policy with
  | .savePartial => s.group
  | .allOrNothing => if s.firstError.isNone then s.group else none

def result (s : State) (stored : Except GroupStore.Error Unit) : Except Error Outcome :=
  match s.firstError, stored with
  | some e, _ => .error e
  | none, .error e => .error (.saving e)
  | none, .ok () => .ok ⟨s.recorded, s.group⟩

/-- Collects the result of a task. A task that did not survive could not raise the cancellation, so
that is done here. -/
def collect (s : State) (position : Nat) (t : Task) (r : TaskResult) : State :=
  let crashed : Bool := match r with
    | .crashed _ => true
    | _ => false
  { s with
    tasks := s.tasks.set position { t with phase := .joined r }
    cancelled := s.cancelled || crashed
    firstError := match errorOf r with
      | none => s.firstError
      | some e => keep s.firstError e }

/-- The state after a step of the creation, of one of its tasks or of the recorder (`create`, `create_one`,
`record_instances`); `none` where the step is not possible. -/
def step (c : Context) (s : State) : Action → Option State
  | .task position taskStep =>
    match s.tasks[position]? with
    | none => none
    | some t =>
      (t.step c (position + 1) s.cancelled taskStep).map fun (t, effects) =>
        effects.foldl (fun s e => s.effect (position + 1) e)
          { s with tasks := s.tasks.set position t }
  | .record =>
    match s.channel with
    | [] => none
    | id :: rest => some { s with
        channel := rest
        recorded := s.recorded ++ [id]
        group := s.group.map (·.insert id)
        console := s.console.print id.text
        events := s.events ++ [.recorded id] }
  | .drain =>
    if s.channel.isEmpty && s.tasks.all (·.phase.isOver) && !s.drained then
      some { s with drained := true }
    else none
  | .join position =>
    match s.tasks[position]? with
    | some t =>
      match t.phase with
      | .ended r => some (s.collect position t r)
      | _ => none
    | none => none
  | .store result =>
    match s.closing, s.toStore c with
    | .running, some g =>
      if s.allJoined && s.drained then
        some { s with closing := .stored result, events := s.events ++ [.stored g] }
      else none
    | _, _ => none
  | .finish =>
    if s.allJoined && s.drained then
      match s.closing, s.toStore c with
      | .stored result, _ => some { s with closing := .returned (s.result result) }
      | .running, none => some { s with closing := .returned (s.result (.ok ())) }
      | _, _ => none
    else none

/-- The state after a list of steps; `none` where one of them is not possible. -/
def run (c : Context) (s : State) : List Action → Option State
  | [] => some s
  | a :: actions => (s.step c a).bind fun s => run c s actions

theorem run_append (c : Context) (s : State) (before after : List Action) :
    s.run c (before ++ after) = (s.run c before).bind fun s => s.run c after := by
  induction before generalizing s with
  | nil => rfl
  | cons a before ih => simp [run, ih, Option.bind_assoc]

end State

/-- Prepares a creation (`create`): the count and the builder type are checked, and then there must be a
directory for the output of the setup if there is to be one. -/
def prepare (o : Options) (makeDir : Except IoError String) : Except Error Context :=
  if o.count = 0 then .error (.invalidCount o.count)
  else match CreationRequest.ofBuilderType o.builderType with
    | .error refusal => .error (.invalidRequest refusal)
    | .ok _ =>
      if o.setup then
        match makeDir with
        | .error cause => .error (.outputDir cause)
        | .ok dir => .ok ⟨o, some dir⟩
      else .ok ⟨o, none⟩

end BuildFleet.Creation
