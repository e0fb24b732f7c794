import BuildFleet.Proofs.Creation.Moves
import Mathlib.Data.List.Induction
/-!
# What a run tells

A run is the list of its steps, so what has happened in it can be read off that list: which tasks
were given an instance (`completions`), what their commands answered (`answers`), in which order
results were collected (`joins`), and how storing went (`storeAnswers`).

Facts about what a run has done so far go over the run from its start, with the steps taken so far in
hand (`State.run_history`).
-/
namespace BuildFleet.Creation

/-! ## Reading a list of steps -/

/-- The instance that a step consumes from the stream of updates. -/
def TaskStep.completed? : TaskStep → Option InstanceId
  | .item (.ok (.complete id)) _ => some id
  | _ => none

/-- The answer of a setup command that a step consumes. -/
def TaskStep.answer? : TaskStep → Option (Except Setup.Error Unit)
  | .setup (.finished result) => some result
  | _ => none

def Action.step? (position : Nat) : Action → Option TaskStep
  | .task i step => if i = position then some step else none
  | _ => none

/-- The position of the task that is given an instance, and the instance. -/
def Action.completion? : Action → Option (Nat × InstanceId)
  | .task i step => step.completed?.map fun id => (i, id)
  | _ => none

def Action.joined? : Action → Option Nat
  | .join i => some i
  | _ => none

def Action.storeAnswer? : Action → Option (Except GroupStore.Error Unit)
  | .store result => some result
  | _ => none

/-- The steps of the task at a position. -/
def stepsOf (position : Nat) (actions : List Action) : List TaskStep :=
  actions.filterMap (Action.step? position)

/-- The tasks that have consumed the completion of their request, each with its instance, in the
order in which they did. -/
def completions (actions : List Action) : List (Nat × InstanceId) :=
  actions.filterMap Action.completion?

/-- The answers to the setup commands of the task at a position. The first is that of the push, the
second that of the run. -/
def answers (position : Nat) (actions : List Action) : List (Except Setup.Error Unit) :=
  (stepsOf position actions).filterMap TaskStep.answer?

/-- The positions of the tasks whose results were collected, in the order of that. -/
def joins (actions : List Action) : List Nat := actions.filterMap Action.joined?

def storeAnswers (actions : List Action) : List (Except GroupStore.Error Unit) :=
  actions.filterMap Action.storeAnswer?

theorem stepsOf_concat (i : Nat) (actions : List Action) (a : Action) :
    stepsOf i (actions ++ [a]) = stepsOf i actions ++ (a.step? i).toList := by
  cases h : a.step? i <;> simp [stepsOf, h]

theorem completions_concat (actions : List Action) (a : Action) :
    completions (actions ++ [a]) = completions actions ++ a.completion?.toList := by
  cases h : a.completion? <;> simp [completions, h]

theorem joins_concat (actions : List Action) (a : Action) :
    joins (actions ++ [a]) = joins actions ++ a.joined?.toList := by
  cases h : a.joined? <;> simp [joins, h]

theorem storeAnswers_concat (actions : List Action) (a : Action) :
    storeAnswers (actions ++ [a]) = storeAnswers actions ++ a.storeAnswer?.toList := by
  cases h : a.storeAnswer? <;> simp [storeAnswers, h]

theorem completions_filter (i : Nat) (actions : List Action) :
    ((completions actions).filter (·.1 == i)).map Prod.snd =
      (stepsOf i actions).filterMap TaskStep.completed? := by
  induction actions with
  | nil => rfl
  | cons a actions ih =>
    unfold completions stepsOf at ih ⊢
    cases a with
    | task j step =>
      by_cases hj : j = i <;> cases hc : step.completed? <;>
        simp [Action.completion?, Action.step?, hj, hc, ih]
    | _ => simpa [List.filterMap_cons, Action.completion?, Action.step?] using ih

/-! ## Runs from their start -/

namespace State

variable {c : Context} {s t : State} {actions : List Action}

theorem run_concat (c : Context) (s : State) (actions : List Action) (a : Action) :
    s.run c (actions ++ [a]) = (s.run c actions).bind fun t => t.step c a := by
  rw [run_append]
  simp [run]

/-- What holds at the start and is kept by every move holds after a run. The steps taken so far are
at hand. -/
theorem run_history {P : List Action → State → Prop} (start : P [] s)
    (keeps : ∀ actions t a u, s.run c actions = some t → P actions t → Moves c t a u →
      P (actions ++ [a]) u)
    (h : s.run c actions = some t) : P actions t := by
  induction actions using List.reverseRecOn generalizing t with
  | nil => exact Option.some.inj h ▸ start
  | append_singleton actions a ih =>
    rw [run_concat] at h
    obtain ⟨u, hu, h⟩ := Option.bind_eq_some_iff.1 h
    exact keeps actions u a t hu (ih hu) (moves_of_step h)

end State

end BuildFleet.Creation
