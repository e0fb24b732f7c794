import BuildFleet.Proofs.Creation.Setup
/-!
# Runs without what is shown

What a creation shows leaves traces: remarks about the queue, the console itself, and the times that
are told. A step that is taken without these gives what the full step gives, with them taken out
(`Task.step_untimed`, `State.step_unobserved`). So runs from states that are alike but for the traces
stay alike (`State.run_alike`).
-/
namespace BuildFleet.Creation

/-! ## Without times -/

def Error.untimed : Error → Error
  | .request index builderType _ cause => .request index builderType .zero cause
  | e => e

theorem Error.isCancellation_untimed (e : Error) : e.untimed.isCancellation = e.isCancellation := by
  cases e <;> rfl

def TaskResult.untimed : TaskResult → TaskResult
  | .failed e => .failed e.untimed
  | r => r

def Phase.untimed : Phase → Phase
  | .failing e => .failing e.untimed
  | .ended r => .ended r.untimed
  | .joined r => .joined r.untimed
  | p => p

theorem Phase.isOver_untimed (p : Phase) : p.untimed.isOver = p.isOver := by
  cases p <;> rfl

theorem setupPhase_untimed (index : Nat) (job : Setup.Job) (stage : Setup.Stage) :
    (setupPhase index job stage).untimed = setupPhase index job stage := by
  rcases stage with _ | _ | _ | _ | _ | (_ | _) <;> rfl

theorem Context.afterCompletion_untimed (c : Context) (id : InstanceId) :
    (c.afterCompletion id).untimed = c.afterCompletion id := by
  unfold Context.afterCompletion
  split <;> rfl

def Task.untimed (t : Task) : Task := ⟨t.phase.untimed, t.given⟩

def TaskStep.untimed : TaskStep → TaskStep
  | .replied result _ => .replied result .zero
  | .item update _ => .item update .zero
  | step => step

def Action.untimed : Action → Action
  | .task position step => .task position step.untimed
  | a => a

def Closing.untimed : Closing → Closing
  | .returned result => .returned (result.mapError Error.untimed)
  | cl => cl

/-! ## Without remarks about the queue -/

/-- The same creation, with remarks about the queue or without them. -/
def Context.showing (c : Context) (shown : Bool) : Context :=
  { c with options := { c.options with showStatus := shown } }

def Effect.isWaiting : Effect → Bool
  | .waiting _ => true
  | _ => false

/-- A step of a task does the same without times and remarks about the queue. -/
theorem Task.step_untimed (c : Context) (index : Nat) (cancelled : Bool) (t : Task)
    (step : TaskStep) :
    (t.step c index cancelled step).map (fun r => (r.1.untimed, r.2.filter (!·.isWaiting))) =
      t.untimed.step (c.showing false) index cancelled step.untimed := by
  obtain ⟨phase, given⟩ := t
  cases step with
  | call => cases phase <;> rfl
  | replied result elapsed => cases phase <;> cases result <;> rfl
  | item item elapsed =>
    cases phase with
    | streaming =>
      rcases item with e | ahead | id
      · rfl
      · simp only [Task.step, Context.onItem, Task.untimed, TaskStep.untimed, Context.showing,
          Option.map_some]
        split <;> rfl
      · simp only [Task.step, Context.onItem, Task.untimed, TaskStep.untimed, Option.map_some,
          Context.afterCompletion_untimed]
        rfl
    | _ => rfl
  | streamEnded => cases phase <;> rfl
  | setup step =>
    cases phase with
    | setup job stage =>
      show ((stage.step job cancelled step).map _).map _ = (stage.step job cancelled step).map _
      rw [Option.map_map]
      congr 1
      funext r
      obtain ⟨stage, effects⟩ := r
      -- No effect of a setup is a remark about the queue, so none is left out.
      have hkept : (effects.map Effect.setup).filter (!·.isWaiting) = effects.map .setup := by
        rw [List.filter_eq_self]
        intro e he
        obtain ⟨x, -, rfl⟩ := List.mem_map.1 he
        rfl
      show (Task.mk (setupPhase index job stage).untimed given, _) = _
      rw [setupPhase_untimed, hkept]
      rfl
    | _ => rfl
  | noticed => cases phase <;> cases cancelled <;> rfl
  | raise => cases phase <;> rfl
  | crash detail => cases phase <;> rfl

/-! ## Without the console -/

namespace State

/-- The state with nothing on the console. -/
def hush (s : State) : State := { s with console := .working }

/-- What there is of a state without times, remarks about the queue and the console. -/
def unobserved (s : State) : State :=
  { s with
    tasks := s.tasks.map Task.untimed
    firstError := s.firstError.map Error.untimed
    closing := s.closing.untimed
    console := .working
    events := s.events.filter Event.isDeed }

theorem isDeed_eq_of_event? {index : Nat} {e : Effect} {event : Event}
    (h : e.event? index = some event) : event.isDeed = !e.isWaiting := by
  rcases e with _ | _ | _ | (_ | _) | _ <;> cases h <;> rfl

theorem unobserved_after (s : State) (position : Nat) (t : Task) (effects : List Effect) :
    (s.after position t effects).unobserved =
      (s.unobserved.after position t.untimed (effects.filter (!·.isWaiting))).hush := by
  have hcreated : (effects.filter (!·.isWaiting)).filterMap Effect.created? =
      effects.filterMap Effect.created? := by
    rw [List.filterMap_filter]
    exact List.filterMap_congr fun e _ => by cases e <;> rfl
  have hcancel : (effects.filter (!·.isWaiting)).any Effect.isCancel =
      effects.any Effect.isCancel := by
    rw [List.any_filter]
    congr 1
    funext e
    cases e <;> rfl
  simp only [unobserved, hush, after_eq, List.map_set, List.filter_append, hcreated, hcancel,
    filter_filterMap_eq fun _ _ _ => isDeed_eq_of_event?]

theorem closing_unobserved (s : State) : s.unobserved.closing = s.closing.untimed := rfl

theorem toStore_unobserved (c : Context) (s : State) :
    s.unobserved.toStore (c.showing false) = s.toStore c := by
  simp only [toStore, unobserved, Context.showing, Option.isNone_map]

theorem result_unobserved (s : State) (stored : Except GroupStore.Error Unit) :
    s.unobserved.result stored = (s.result stored).mapError Error.untimed := by
  cases hfirst : s.firstError <;> rcases stored with _ | ⟨⟨⟩⟩ <;>
    simp [result, unobserved, hfirst, Except.mapError, Error.untimed]

theorem allJoined_unobserved (s : State) : s.unobserved.allJoined = s.allJoined := by
  simp only [allJoined, unobserved, List.all_map]
  congr 1
  funext t
  obtain ⟨phase, given⟩ := t
  cases phase <;> rfl

theorem keep_untimed (first : Option Error) (e : Error) :
    keep (first.map Error.untimed) e.untimed = (keep first e).map Error.untimed := by
  cases first with
  | none => rfl
  | some f =>
    simp only [keep, Option.map_some, Error.isCancellation_untimed]
    split <;> rfl

theorem collect_unobserved (s : State) (position : Nat) (t : Task) (r : TaskResult) :
    (s.collect position t r).unobserved = s.unobserved.collect position t.untimed r.untimed := by
  have hphase : (⟨.joined r, t.given⟩ : Task).untimed = ⟨.joined r.untimed, t.given⟩ := rfl
  cases r with
  | succeeded =>
    simp only [collect, unobserved, List.map_set, hphase, errorOf]
    rfl
  | failed e =>
    simp only [collect, unobserved, List.map_set, hphase, errorOf, ← keep_untimed]
    rfl
  | crashed detail =>
    simp only [collect, unobserved, List.map_set, hphase, errorOf, ← keep_untimed]
    rfl

theorem all_isOver_untimed (tasks : List Task) :
    (tasks.map Task.untimed).all (·.phase.isOver) = tasks.all (·.phase.isOver) := by
  rw [List.all_map]
  congr 1
  funext t
  exact Phase.isOver_untimed t.phase

/-- A step does the same without times, remarks about the queue and the console. -/
theorem step_unobserved (c : Context) (s : State) (a : Action) :
    (s.step c a).map unobserved = (s.unobserved.step (c.showing false) a.untimed).map hush := by
  cases a with
  | task position step =>
    have htask : s.unobserved.tasks[position]? = s.tasks[position]?.map Task.untimed :=
      List.getElem?_map
    simp only [State.step, Action.untimed, htask]
    cases s.tasks[position]? with
    | none => rfl
    | some t =>
      simp only [Option.map_some]
      rw [← Task.step_untimed, Option.map_map, Option.map_map, Option.map_map]
      congr 1
      funext r
      exact unobserved_after s position r.1 r.2
  | record =>
    simp only [State.step, Action.untimed, unobserved]
    cases s.channel with
    | nil => rfl
    | cons id rest => simp [hush, Event.isDeed, unobserved]
  | drain =>
    simp only [State.step, Action.untimed]
    rw [show s.unobserved.tasks.all _ = _ from all_isOver_untimed s.tasks]
    show _ = Option.map hush (if s.channel.isEmpty && _ && !s.drained then _ else none)
    split <;> rfl
  | join position =>
    have htask : s.unobserved.tasks[position]? = s.tasks[position]?.map Task.untimed :=
      List.getElem?_map
    simp only [State.step, Action.untimed, htask]
    cases s.tasks[position]? with
    | none => rfl
    | some t =>
      obtain ⟨phase, given⟩ := t
      cases phase with
      | ended r =>
        simp only [Option.map_some, Task.untimed, Phase.untimed]
        rw [collect_unobserved]
        rfl
      | _ => rfl
  | store result =>
    simp only [State.step, Action.untimed, closing_unobserved, toStore_unobserved,
      allJoined_unobserved]
    cases s.closing with
    | running =>
      cases s.toStore c with
      | none => rfl
      | some g =>
        show _ = Option.map hush (if s.allJoined && s.drained then _ else none)
        dsimp only
        split
        · simp [hush, unobserved, Closing.untimed, Event.isDeed]
        · rfl
    | _ => rfl
  | finish =>
    simp only [State.step, Action.untimed, closing_unobserved, toStore_unobserved,
      allJoined_unobserved, result_unobserved]
    show _ = Option.map hush (if s.allJoined && s.drained then _ else none)
    split
    · cases s.closing with
      | running => cases s.toStore c <;> rfl
      | _ => rfl
    · rfl

/-- Two states that differ only in times, remarks about the queue and the console. -/
def Alike (s s' : State) : Prop := s.unobserved = s'.unobserved

/-- What is done alike from states that are alike leads to states that are alike. -/
theorem run_alike {c c' : Context} (hc : c.showing false = c'.showing false) {s s' t : State}
    (hs : s.Alike s') {actions actions' : List Action}
    (ha : actions.map Action.untimed = actions'.map Action.untimed)
    (h : s.run c actions = some t) : ∃ t', s'.run c' actions' = some t' ∧ t.Alike t' := by
  induction actions generalizing s s' actions' with
  | nil =>
    obtain rfl := List.map_eq_nil_iff.1 ha.symm
    obtain rfl := Option.some.inj h
    exact ⟨s', rfl, hs⟩
  | cons a actions ih =>
    cases actions' with
    | nil => cases ha
    | cons a' actions' =>
      rw [List.map_cons, List.map_cons, List.cons.injEq] at ha
      obtain ⟨u, hu, h⟩ := Option.bind_eq_some_iff.1 h
      have hstep : (s'.step c' a').map unobserved = some u.unobserved := by
        rw [step_unobserved, ← show s.unobserved = s'.unobserved from hs, ← hc, ← ha.1,
          ← step_unobserved, hu]
        rfl
      obtain ⟨u', hu', hunobserved⟩ := Option.map_eq_some_iff.1 hstep
      obtain ⟨t', ht', halike⟩ := ih hunobserved.symm ha.2 h
      refine ⟨t', ?_, halike⟩
      rw [run, hu', Option.bind_some]
      exact ht'

end State

end BuildFleet.Creation
