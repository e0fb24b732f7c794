import BuildFleet.Console
import BuildFleet.Setup.Stage
/-!
# Setups with known commands

The course of a setup whose commands do what is known beforehand.
-/
namespace BuildFleet.Setup

structure CommandScript where
  wait : Nat := 0
  /-- The result; `none` where the task does not survive the command. -/
  result : Option (Except Error Unit) := some (.ok ())
  /-- The command notices a cancellation. -/
  observes : Bool := true

/-- The steps of a setup under a cancellation that does not change; they stop where the task does
not survive. -/
def steps (cancelled : Bool) (root : Except Error String) (command : Phase → CommandScript) :
    List (Option Step) :=
  let ending (script : CommandScript) : Option Step :=
    if cancelled && script.observes then some .noticed else script.result.map .finished
  [some (.resolved root), some .announce, some .start, ending (command .push),
    some .announce, some .start, ending (command .run)]

/-- How a setup on its own went. -/
structure Course where
  stage : Stage
  console : Console
  calls : List Call
  /-- The task did not survive. -/
  crashed : Bool

def Course.effect (c : Course) : Effect → Course
  | .notice _ line => { c with console := c.console.status line }
  | .call call => { c with calls := c.calls ++ [call] }

def Course.advance (job : Job) (cancelled : Bool) (c : Course) (step : Option Step) : Course :=
  if c.crashed then c
  else match step, c.stage with
    | none, .running .. => { c with crashed := true }
    | none, _ => c
    | some step, stage =>
      match stage.step job cancelled step with
      | some (stage, effects) => effects.foldl Course.effect { c with stage := stage }
      | none => c

/-- The course of a setup on its own. -/
def alone (job : Job) (cancelled : Bool) (root : Except Error String)
    (command : Phase → CommandScript) : Course :=
  (steps cancelled root command).foldl (Course.advance job cancelled)
    ⟨.resolving, .working, [], false⟩

def Course.result? (c : Course) : Option (Except Error Unit) :=
  match c.stage with
  | .ended result => some result
  | _ => none

end BuildFleet.Setup
