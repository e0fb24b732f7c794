import BuildFleet.Proofs.Creation.History
/-!
# The course of one task (`create_one`)

A task meets the others only in the cancellation, which can stop it and tells it nothing else. So
what it has become follows from its own steps: `Task.Path` is a task with the steps it has taken and
the effects of these, and `State.path_of_run` finds the path of each task in a run. What a task was
given, what its commands answered and what it asked for are then facts about paths.
-/
namespace BuildFleet.Creation

/-- The task with an ordinal after steps of its own, with the effects of these. -/
inductive Task.Path (c : Context) (index : Nat) : List TaskStep → List Effect → Task → Prop where
  | fresh : Path c index [] [] .fresh
  | step {steps effects t cancelled step u more} (h : Path c index steps effects t)
    (hm : Task.Moves c index cancelled t step u more) :
    Path c index (steps ++ [step]) (effects ++ more) u
  | joined {steps effects r given} (h : Path c index steps effects ⟨.ended r, given⟩) :
    Path c index steps effects ⟨.joined r, given⟩

/-- The task waits for the service, or has not begun. -/
def Phase.isWaiting : Phase → Bool
  | .idle | .calling | .streaming => true
  | _ => false

def Phase.result? : Phase → Option TaskResult
  | .ended r | .joined r => some r
  | _ => none

/-- The task is past its request, and nothing has gone wrong. -/
def Phase.hasAsked : Phase → Bool
  | .calling | .streaming | .setup .. | .ended .succeeded | .joined .succeeded => true
  | _ => false

def Effect.request? : Effect → Option String
  | .request builderType => some builderType
  | _ => none

/-- What has been answered before a command is, when none has failed. -/
def answeredBefore : Setup.Phase → List (Except Setup.Error Unit)
  | .push => []
  | .run => [.ok ()]

/-- What has been answered when a setup has come to a stage and no command has failed. -/
def answered : Setup.Stage → List (Except Setup.Error Unit)
  | .announcing phase _ | .starting phase _ | .running phase _ => answeredBefore phase
  | .saving _ => answeredBefore .run
  | _ => []

/-- The answers of its commands fit where a task stands. With setup, success is what two successful
answers mean. -/
def AnswersFit (c : Context) : Phase → List (Except Setup.Error Unit) → Prop
  | .idle, rs | .calling, rs | .streaming, rs => rs = []
  | .setup _ stage, rs => rs = answered stage
  | .ended .succeeded, rs | .joined .succeeded, rs =>
    c.outputDir.isSome = true → rs = [.ok (), .ok ()]
  | _, rs => rs ≠ [.ok (), .ok ()]

section
variable {c : Context} {index : Nat} {cancelled : Bool} {t u : Task} {step : TaskStep}
  {effects : List Effect}

theorem Task.Moves.requests_of_not_idle (h : Task.Moves c index cancelled t step u effects)
    (hp : t.phase ≠ .idle) : effects.filterMap Effect.request? = [] := by
  cases h with
  | call => exact absurd rfl hp
  | pending => split <;> rfl
  | announced => split <;> rfl
  | _ => rfl

theorem Task.Moves.hasAsked_of_not_idle (h : Task.Moves c index cancelled t step u effects)
    (hp : t.phase ≠ .idle) (hu : u.phase.hasAsked = true) : t.phase.hasAsked = true := by
  cases h with
  | call => exact absurd rfl hp
  | raise => cases hu
  | noticed => cases hu
  | crash => cases hu
  | _ => rfl

theorem answered_ne (stage : Setup.Stage) : answered stage ≠ [.ok (), .ok ()] := by
  rcases stage with _ | ⟨_ | _, _⟩ | ⟨_ | _, _⟩ | ⟨_ | _, _⟩ | _ | _ <;>
    simp [answered, answeredBefore]

theorem Task.Moves.answersFit (h : Task.Moves c index cancelled t step u effects)
    {rs : List (Except Setup.Error Unit)} (hr : AnswersFit c t.phase rs) :
    AnswersFit c u.phase (rs ++ step.answer?.toList) := by
  cases h with
  | refused => subst hr; simp [AnswersFit, TaskStep.answer?]
  | broken => subst hr; simp [AnswersFit, TaskStep.answer?]
  | streamEnded => subst hr; simp [AnswersFit, TaskStep.answer?]
  | completed hd => intro hs; simp [hd] at hs
  | rootLost => subst hr; simp [AnswersFit, TaskStep.answer?, answered]
  | pushed => subst hr; rfl
  | ran => intro _; subst hr; rfl
  | saved => intro _; subst hr; rfl
  | savedFailure => subst hr; simp [AnswersFit, TaskStep.answer?, answered, answeredBefore]
  | commandFailed =>
    rename_i phase root e
    subst hr
    cases phase <;> simp [AnswersFit, TaskStep.answer?, answered, answeredBefore]
  | commandNoticed =>
    subst hr
    simpa [AnswersFit, TaskStep.answer?] using answered_ne _
  | noticed _ hp =>
    rcases hp with rfl | rfl | rfl <;> subst hr <;> simp [AnswersFit, TaskStep.answer?]
  | crash hp =>
    rcases hp with rfl | rfl | ⟨job, stage, rfl⟩ <;> subst hr
    · simp [AnswersFit, TaskStep.answer?]
    · simp [AnswersFit, TaskStep.answer?]
    · simpa [AnswersFit, TaskStep.answer?] using answered_ne stage
  | _ => exact (List.append_nil rs).symm ▸ hr

end

namespace Task.Path

variable {c : Context} {index : Nat} {steps : List TaskStep} {effects : List Effect} {t : Task}

theorem given_of_isWaiting (h : Path c index steps effects t) (hw : t.phase.isWaiting = true) :
    t.given = none := by
  induction h with
  | fresh => rfl
  | step h hm ih =>
    cases hm with
    | call => exact ih rfl
    | accepted => exact ih rfl
    | pending => exact ih rfl
    | _ => cases hw
  | joined h ih => cases hw

/-- A task consumes one completion at most, and is given the instance of that. -/
theorem completed (h : Path c index steps effects t) :
    steps.filterMap TaskStep.completed? = t.given.toList := by
  induction h with
  | fresh => rfl
  | step h hm ih =>
    rw [List.filterMap_append, ih]
    cases hm with
    | completed hd => rw [h.given_of_isWaiting rfl]; rfl
    | handedOver hd => rw [h.given_of_isWaiting rfl]; rfl
    | _ => simp [TaskStep.completed?]
  | joined h ih => exact ih

/-- The instance that is set up is the one that the task was given. -/
theorem setup_job (h : Path c index steps effects t) {job : Setup.Job} {stage : Setup.Stage}
    (hp : t.phase = .setup job stage) :
    t.given = some job.id ∧ ∃ dir, c.outputDir = some dir ∧ job = c.job dir job.id := by
  induction h generalizing stage with
  | fresh => cases hp
  | step h hm ih =>
    cases hm with
    | handedOver hd => cases hp; exact ⟨rfl, _, hd, rfl⟩
    | rootFound => cases hp; exact ih rfl
    | announced => cases hp; exact ih rfl
    | started => cases hp; exact ih rfl
    | pushed => cases hp; exact ih rfl
    | exited => cases hp; exact ih rfl
    | _ => cases hp
  | joined h ih => cases hp

/-- A task that succeeds has been given an instance. -/
theorem given_of_succeeded (h : Path c index steps effects t)
    (hr : t.phase.result? = some .succeeded) : ∃ id, t.given = some id := by
  induction h with
  | fresh => cases hr
  | step h hm ih =>
    cases hm with
    | completed hd => exact ⟨_, rfl⟩
    | ran => exact ⟨_, (h.setup_job rfl).1⟩
    | saved => exact ⟨_, (h.setup_job rfl).1⟩
    | _ => cases hr
  | joined h ih => exact ih hr

/-- Without setup, a task that is given an instance succeeds. -/
theorem succeeded_of_given (h : Path c index steps effects t) (hd : c.outputDir = none)
    {id : InstanceId} (hg : t.given = some id) : t.phase.result? = some .succeeded := by
  induction h with
  | fresh => cases hg
  | step h hm ih =>
    cases hm with
    | completed _ => rfl
    | handedOver hd' => simp [hd] at hd'
    | noticed _ hp => rcases hp with rfl | rfl | rfl <;> cases ih hg
    | crash hp => rcases hp with rfl | rfl | ⟨job, stage, rfl⟩ <;> cases ih hg
    | _ => cases ih hg
  | joined h ih => exact ih hg

theorem effects_of_idle (h : Path c index steps effects t) (hp : t.phase = .idle) :
    effects = [] := by
  cases h with
  | fresh => rfl
  | step h hm => cases hm <;> cases hp
  | joined h => cases hp

/-- A task that is under way, or has succeeded, has asked for an instance exactly once. -/
theorem requests_of_hasAsked (h : Path c index steps effects t) (ha : t.phase.hasAsked = true) :
    effects.filterMap Effect.request? = [c.options.builderType] := by
  induction h with
  | fresh => cases ha
  | step h hm ih =>
    rename_i t _ _ u more
    rw [List.filterMap_append]
    by_cases hi : t.phase = .idle
    · rw [h.effects_of_idle hi]
      cases hm with
      | call => rfl
      | noticed => cases ha
      | crash hp => rcases hp with rfl | rfl | ⟨_, _, rfl⟩ <;> cases hi
      | _ => cases hi
    · rw [ih (hm.hasAsked_of_not_idle hi ha), hm.requests_of_not_idle hi, List.append_nil]
  | joined h ih =>
    rename_i r given
    cases r with
    | succeeded => exact ih rfl
    | _ => cases ha

/-- The answers of a task's commands fit where it stands. -/
theorem answersFit (h : Path c index steps effects t) :
    AnswersFit c t.phase (steps.filterMap TaskStep.answer?) := by
  induction h with
  | fresh => rfl
  | step h hm ih =>
    rename_i step _ _
    have hs : [step].filterMap TaskStep.answer? = step.answer?.toList := by
      cases hr : step.answer? <;> simp [hr]
    rw [List.filterMap_append, hs]
    exact hm.answersFit ih
  | joined h ih =>
    rename_i r given
    cases r <;> exact ih

end Task.Path

/-! ## Runs, task by task -/

def Event.index? : Event → Option Nat
  | .requested index _ | .waiting index _ | .created index _ | .notice index _ _ | .called index _ =>
    some index
  | .recorded _ | .stored _ => none

/-- The events about the task with an ordinal. -/
def eventsOf (index : Nat) (events : List Event) : List Event :=
  events.filter fun e => e.index? == some index

theorem eventsOf_append (index : Nat) (before after : List Event) :
    eventsOf index (before ++ after) = eventsOf index before ++ eventsOf index after :=
  List.filter_append ..

theorem index_of_event? {index : Nat} {e : Effect} {event : Event}
    (h : e.event? index = some event) : event.index? = some index := by
  rcases e with _ | _ | _ | (_ | _) | _ <;> cases h <;> rfl

theorem eventsOf_effects (index : Nat) (effects : List Effect) :
    eventsOf index (effects.filterMap (Effect.event? index)) =
      effects.filterMap (Effect.event? index) := by
  refine List.filter_eq_self.2 fun event he => ?_
  obtain ⟨e, -, he⟩ := List.mem_filterMap.1 he
  simp [index_of_event? he]

theorem eventsOf_effects_of_ne {index other : Nat} (h : other ≠ index) (effects : List Effect) :
    eventsOf index (effects.filterMap (Effect.event? other)) = [] := by
  refine List.filter_eq_nil_iff.2 fun event he => ?_
  obtain ⟨e, -, he⟩ := List.mem_filterMap.1 he
  simp [index_of_event? he, h]

namespace State

variable {c : Context} {group : Option Group} {console : Console} {actions : List Action}
  {s : State} {i : Nat} {t : Task}

theorem length_tasks (h : (State.initial c group console).run c actions = some s) :
    s.tasks.length = c.options.count := by
  refine run_history (P := fun _ s => s.tasks.length = c.options.count) (by simp [initial]) ?_ h
  intro actions s a u _ hs hm
  cases hm <;> simp_all [collect]

theorem lt_count (h : (State.initial c group console).run c actions = some s)
    (ht : s.tasks[i]? = some t) : i < c.options.count := by
  rw [← length_tasks h]
  exact (List.getElem?_eq_some_iff.1 ht).1

theorem exists_task (h : (State.initial c group console).run c actions = some s)
    (hi : i < c.options.count) : ∃ t, s.tasks[i]? = some t := by
  rw [← length_tasks h] at hi
  exact ⟨_, List.getElem?_eq_getElem hi⟩

/-- What a task has become follows from its own steps, and the events about it are the effects of
these. -/
theorem path_of_run (h : (State.initial c group console).run c actions = some s)
    (ht : s.tasks[i]? = some t) :
    ∃ effects, Task.Path c (i + 1) (stepsOf i actions) effects t ∧
      eventsOf (i + 1) s.events = effects.filterMap (Effect.event? (i + 1)) := by
  -- For all tasks at once: a step of one has to leave the paths of the others as they are.
  refine run_history (P := fun actions s => ∀ i t, s.tasks[i]? = some t →
    ∃ effects, Task.Path c (i + 1) (stepsOf i actions) effects t ∧
      eventsOf (i + 1) s.events = effects.filterMap (Effect.event? (i + 1))) ?_ ?_ h i t ht
  · intro i t ht
    obtain ⟨-, rfl⟩ : i < c.options.count ∧ .fresh = t := by
      simpa [initial, List.getElem?_replicate] using ht
    exact ⟨[], .fresh, rfl⟩
  · intro actions s a u _ hs hm i t ht
    rw [stepsOf_concat]
    cases hm with
    | task hj hm =>
      rename_i j step v w more
      by_cases hij : j = i
      · subst hij
        obtain ⟨effects, hp, he⟩ := hs j v hj
        obtain rfl : w = t := by simpa [(List.getElem?_eq_some_iff.1 hj).1] using ht
        refine ⟨effects ++ more, ?_, ?_⟩
        · simpa [Action.step?] using hp.step hm
        · rw [after_events, eventsOf_append, he, eventsOf_effects, List.filterMap_append]
      · obtain ⟨effects, hp, he⟩ := hs i t (by simpa [List.getElem?_set_ne hij] using ht)
        refine ⟨effects, by simpa [Action.step?, hij] using hp, ?_⟩
        rw [after_events, eventsOf_append, he, eventsOf_effects_of_ne (by omega), List.append_nil]
    | record => simpa [Action.step?, eventsOf, Event.index?] using hs i t ht
    | drain => simpa [Action.step?] using hs i t ht
    | join hj =>
      rename_i j given r
      by_cases hij : j = i
      · subst hij
        obtain ⟨effects, hp, he⟩ := hs j _ hj
        obtain rfl : (⟨.joined r, given⟩ : Task) = t := by
          simpa [collect, (List.getElem?_eq_some_iff.1 hj).1] using ht
        exact ⟨effects, by simpa [Action.step?] using hp.joined, he⟩
      · exact (hs i t (by simpa [collect, List.getElem?_set_ne hij] using ht)).imp
          fun effects h => ⟨by simpa [Action.step?] using h.1, h.2⟩
    | store => simpa [Action.step?, eventsOf, Event.index?] using hs i t ht
    | finishStored => simpa [Action.step?] using hs i t ht
    | finish => simpa [Action.step?] using hs i t ht

theorem stepsOf_eq_nil (h : (State.initial c group console).run c actions = some s)
    (hi : c.options.count ≤ i) : stepsOf i actions = [] := by
  refine run_history (P := fun actions _ => stepsOf i actions = []) rfl ?_ h
  intro actions s a u hrun hs hm
  rw [stepsOf_concat, hs]
  cases hm with
  | task hj _ =>
    have hne : ¬ _ = i := Nat.ne_of_lt (Nat.lt_of_lt_of_le (lt_count hrun hj) hi)
    simp [Action.step?, hne]
  | _ => rfl

/-- Only tasks that there are take part in events. -/
theorem index_le_of_mem_events (h : (State.initial c group console).run c actions = some s)
    {event : Event} (he : event ∈ s.events) {k : Nat} (hk : event.index? = some k) :
    1 ≤ k ∧ k ≤ c.options.count := by
  refine run_history (P := fun _ s => ∀ event ∈ s.events, ∀ k, event.index? = some k →
    1 ≤ k ∧ k ≤ c.options.count) (by simp [initial]) ?_ h event he k hk
  intro actions s a u hrun hs hm event he k hk
  cases hm with
  | task hj _ =>
    rw [after_events, List.mem_append] at he
    rcases he with he | he
    · exact hs event he k hk
    · obtain ⟨e, -, he⟩ := List.mem_filterMap.1 he
      have hlt := lt_count hrun hj
      rw [index_of_event? he] at hk
      cases hk
      omega
  | record =>
    rcases List.mem_append.1 he with he | he
    · exact hs event he k hk
    · simp only [List.mem_singleton] at he; subst he; cases hk
  | store =>
    rcases List.mem_append.1 he with he | he
    · exact hs event he k hk
    · simp only [List.mem_singleton] at he; subst he; cases hk
  | _ => exact hs event he k hk

end State

end BuildFleet.Creation
