import BuildFleet.Creation.State
/-!
# What a step can do (`create_one`, `create`)

The steps of a task and of a creation, each with the state it starts from and the state it leads to. A
step is one of these moves (`Task.moves_of_step`, `State.moves_of_step`), and each move is a step
(`Task.Moves.step_eq`, `State.Moves.step_eq`). Facts about runs go by cases on the moves; nothing else opens
`step`. The effects of a task's step reach the channel, the cancellation, the remarks and the events,
and leave all else as it is (`after_recorded` and its neighbours).
-/
namespace BuildFleet.Creation

/-! ## Tasks -/

/-- The moves of the task with an ordinal: the task before, the step, the task after and the
effects. -/
inductive Task.Moves (c : Context) (index : Nat) (cancelled : Bool) :
    Task → TaskStep → Task → List Effect → Prop where
  | call {given} :
    Moves c index cancelled ⟨.idle, given⟩ .call ⟨.calling, given⟩ [.request c.options.builderType]
  | accepted {given elapsed} :
    Moves c index cancelled ⟨.calling, given⟩ (.replied (.ok ()) elapsed) ⟨.streaming, given⟩ []
  | refused {given e elapsed} :
    Moves c index cancelled ⟨.calling, given⟩ (.replied (.error e) elapsed)
      ⟨.failing (.request index c.options.builderType elapsed e), given⟩ []
  | pending {given ahead elapsed} :
    Moves c index cancelled ⟨.streaming, given⟩ (.item (.ok (.pending ahead)) elapsed)
      ⟨.streaming, given⟩
      (if c.options.showStatus then [.waiting (c.waitingLine index elapsed ahead)] else [])
  | broken {given e elapsed} :
    Moves c index cancelled ⟨.streaming, given⟩ (.item (.error e) elapsed)
      ⟨.failing (.request index c.options.builderType elapsed e), given⟩ []
  | completed {given id elapsed} (h : c.outputDir = none) :
    Moves c index cancelled ⟨.streaming, given⟩ (.item (.ok (.complete id)) elapsed)
      ⟨.ended .succeeded, some id⟩ [.created id]
  | handedOver {given id elapsed dir} (h : c.outputDir = some dir) :
    Moves c index cancelled ⟨.streaming, given⟩ (.item (.ok (.complete id)) elapsed)
      ⟨.setup (c.job dir id) .resolving, some id⟩ [.created id]
  | streamEnded {given} :
    Moves c index cancelled ⟨.streaming, given⟩ .streamEnded ⟨.failing (.streamEnded index), given⟩ []
  | rootFound {given job root} :
    Moves c index cancelled ⟨.setup job .resolving, given⟩ (.setup (.resolved (.ok root)))
      ⟨.setup job (.announcing .push root), given⟩ []
  | rootLost {given job e} :
    Moves c index cancelled ⟨.setup job .resolving, given⟩ (.setup (.resolved (.error e)))
      ⟨.failing (.setup index job.id e), given⟩ []
  | announced {given job phase root} :
    Moves c index cancelled ⟨.setup job (.announcing phase root), given⟩ (.setup .announce)
      ⟨.setup job (.starting phase root), given⟩
      (if job.detailed then [] else [.setup (.notice phase (job.notice root phase))])
  | started {given job phase root} :
    Moves c index cancelled ⟨.setup job (.starting phase root), given⟩ (.setup .start)
      ⟨.setup job (.running phase root), given⟩ [.setup (.call (job.call root phase))]
  | pushed {given job root} :
    Moves c index cancelled ⟨.setup job (.running .push root), given⟩ (.setup (.finished (.ok ())))
      ⟨.setup job (.announcing .run root), given⟩ []
  | ran {given job root} :
    Moves c index cancelled ⟨.setup job (.running .run root), given⟩ (.setup (.finished (.ok ())))
      ⟨.ended .succeeded, given⟩ []
  | exited {given job root} (h : job.detailed = false) :
    Moves c index cancelled ⟨.setup job (.running .run root), given⟩ (.setup .exited)
      ⟨.setup job (.saving root), given⟩ []
  | saved {given job root} :
    Moves c index cancelled ⟨.setup job (.saving root), given⟩ (.setup (.finished (.ok ())))
      ⟨.ended .succeeded, given⟩ []
  | savedFailure {given job root e} :
    Moves c index cancelled ⟨.setup job (.saving root), given⟩ (.setup (.finished (.error e)))
      ⟨.failing (.setup index job.id e), given⟩ []
  | commandFailed {given job phase root e} :
    Moves c index cancelled ⟨.setup job (.running phase root), given⟩ (.setup (.finished (.error e)))
      ⟨.failing (.setup index job.id e), given⟩ []
  | commandNoticed {given job phase root} (h : cancelled = true) :
    Moves c index cancelled ⟨.setup job (.running phase root), given⟩ (.setup .noticed)
      ⟨.failing (.setup index job.id (.cancelled phase job.id.text)), given⟩ []
  | noticed {phase given} (h : cancelled = true)
    (hp : phase = .idle ∨ phase = .calling ∨ phase = .streaming) :
    Moves c index cancelled ⟨phase, given⟩ .noticed ⟨.failing (.cancelled index), given⟩ []
  | raise {given e} :
    Moves c index cancelled ⟨.failing e, given⟩ .raise ⟨.ended (.failed e), given⟩ [.cancel]
  | crash {phase given detail}
    (hp : phase = .calling ∨ phase = .streaming ∨ ∃ job stage, phase = .setup job stage) :
    Moves c index cancelled ⟨phase, given⟩ (.crash detail) ⟨.ended (.crashed detail), given⟩ []

section
variable {c : Context} {index : Nat} {cancelled : Bool} {t u : Task} {step : TaskStep}
  {effects : List Effect}

theorem Task.Moves.step_eq (h : Task.Moves c index cancelled t step u effects) :
    t.step c index cancelled step = some (u, effects) := by
  cases h with
  | completed h => simp [Task.step, Context.onItem, Context.afterCompletion, h]
  | handedOver h => simp [Task.step, Context.onItem, Context.afterCompletion, h]
  | announced =>
    simp only [Task.step, Setup.Stage.step, Option.map_some, setupPhase]
    split <;> rfl
  | exited h => simp [Task.step, Setup.Stage.step, setupPhase, h]
  | commandNoticed h => simp [Task.step, Setup.Stage.step, setupPhase, h]
  | noticed h hp => rcases hp with rfl | rfl | rfl <;> simp [Task.step, h]
  | crash hp => rcases hp with rfl | rfl | ⟨job, stage, rfl⟩ <;> rfl
  | _ => rfl

theorem Task.moves_of_step (h : t.step c index cancelled step = some (u, effects)) :
    Task.Moves c index cancelled t step u effects := by
  obtain ⟨phase, given⟩ := t
  cases step with
  | call => cases phase <;> simp [Task.step] at h; obtain ⟨rfl, rfl⟩ := h; exact .call
  | replied result elapsed =>
    cases phase <;> rcases result with e | ⟨⟨⟩⟩ <;> simp [Task.step] at h <;>
      obtain ⟨rfl, rfl⟩ := h
    · exact .refused
    · exact .accepted
  | item item elapsed =>
    cases phase <;> simp [Task.step] at h
    rcases item with e | ahead | id
    · cases h; exact .broken
    · cases h; exact .pending
    · simp only [Context.onItem, Context.afterCompletion, Prod.mk.injEq] at h
      obtain ⟨rfl, rfl⟩ := h
      cases hd : c.outputDir with
      | none => exact .completed hd
      | some dir => exact .handedOver hd
  | streamEnded => cases phase <;> simp [Task.step] at h; obtain ⟨rfl, rfl⟩ := h; exact .streamEnded
  | setup step =>
    cases phase <;> simp [Task.step] at h
    rename_i job stage
    obtain ⟨stage', es, hs, rfl, rfl⟩ := h
    unfold Setup.Stage.step at hs
    split at hs
    · cases hs; exact .rootFound
    · cases hs; exact .rootLost
    · rename_i phase root
      cases hs
      have hm : Task.Moves c index cancelled ⟨.setup job (.announcing phase root), given⟩
        (.setup .announce) _ _ := .announced
      split at hm <;> simp only [*] <;> exact hm
    · cases hs; exact .started
    · split at hs
      · rename_i hrun
        obtain ⟨rfl, hdetailed⟩ := hrun
        cases hs
        exact .exited hdetailed
      · cases hs
    · rename_i phase root result
      cases hs
      rcases result with e | ⟨⟨⟩⟩
      · cases phase <;> exact .commandFailed
      · cases phase
        · exact .pushed
        · exact .ran
    · rename_i root result
      cases hs
      rcases result with e | ⟨⟨⟩⟩
      · exact .savedFailure
      · exact .saved
    · split at hs <;> cases hs
      exact .commandNoticed ‹_›
    · cases hs
  | noticed =>
    cases phase <;> simp [Task.step] at h <;> obtain ⟨hc, rfl, rfl⟩ := h <;>
      exact .noticed hc (by simp)
  | raise => cases phase <;> simp [Task.step] at h; obtain ⟨rfl, rfl⟩ := h; exact .raise
  | crash detail =>
    cases phase <;> simp [Task.step] at h <;> obtain ⟨rfl, rfl⟩ := h <;> exact .crash (by simp)

end

/-! ## Effects -/

/-- The instance that an effect hands to the recorder. -/
def Effect.created? : Effect → Option InstanceId
  | .created id => some id
  | _ => none

def Effect.isCancel : Effect → Bool
  | .cancel => true
  | _ => false

/-- The event that an effect of the task with an ordinal is. -/
def Effect.event? (index : Nat) : Effect → Option Event
  | .request builderType => some (.requested index builderType)
  | .waiting line => some (.waiting index line)
  | .created id => some (.created index id)
  | .setup (.notice phase line) => some (.notice index phase line)
  | .setup (.call call) => some (.called index call)
  | .cancel => none

def Effect.remark? : Effect → Option String
  | .waiting line => some line
  | .setup (.notice _ line) => some line
  | _ => none

namespace State

/-- The state after the task at a position has become `t`, with effects. -/
def after (s : State) (position : Nat) (t : Task) (effects : List Effect) : State :=
  effects.foldl (fun s e => s.effect (position + 1) e) { s with tasks := s.tasks.set position t }

/-- What an effect does, field by field. -/
theorem effect_eq (s : State) (index : Nat) (e : Effect) : s.effect index e =
    { s with
      channel := s.channel ++ e.created?.toList
      cancelled := s.cancelled || e.isCancel
      console := e.remark?.elim s.console s.console.status
      events := s.events ++ (e.event? index).toList } := by
  rcases e with _ | _ | _ | (_ | _) | _ <;>
    simp [effect, Effect.created?, Effect.isCancel, Effect.event?, Effect.remark?]

theorem after_eq (s : State) (position : Nat) (t : Task) (effects : List Effect) :
    s.after position t effects =
      { s with
        tasks := s.tasks.set position t
        channel := s.channel ++ effects.filterMap Effect.created?
        cancelled := s.cancelled || effects.any Effect.isCancel
        console := (effects.filterMap Effect.remark?).foldl Console.status s.console
        events := s.events ++ effects.filterMap (Effect.event? (position + 1)) } := by
  suffices ∀ s : State, effects.foldl (fun s e => s.effect (position + 1) e) s =
      { s with
        channel := s.channel ++ effects.filterMap Effect.created?
        cancelled := s.cancelled || effects.any Effect.isCancel
        console := (effects.filterMap Effect.remark?).foldl Console.status s.console
        events := s.events ++ effects.filterMap (Effect.event? (position + 1)) } from this _
  induction effects with
  | nil => intro s; simp
  | cons e effects ih =>
    intro s
    rw [List.foldl_cons, ih, effect_eq]
    rcases e with _ | _ | _ | (_ | _) | _ <;>
      simp [List.filterMap_cons, Effect.created?, Effect.isCancel, Effect.event?, Effect.remark?]

@[simp] theorem after_tasks (s : State) (i : Nat) (t : Task) (es : List Effect) :
    (s.after i t es).tasks = s.tasks.set i t := by rw [after_eq]

@[simp] theorem after_channel (s : State) (i : Nat) (t : Task) (es : List Effect) :
    (s.after i t es).channel = s.channel ++ es.filterMap Effect.created? := by rw [after_eq]

@[simp] theorem after_recorded (s : State) (i : Nat) (t : Task) (es : List Effect) :
    (s.after i t es).recorded = s.recorded := by rw [after_eq]

@[simp] theorem after_group (s : State) (i : Nat) (t : Task) (es : List Effect) :
    (s.after i t es).group = s.group := by rw [after_eq]

@[simp] theorem after_drained (s : State) (i : Nat) (t : Task) (es : List Effect) :
    (s.after i t es).drained = s.drained := by rw [after_eq]

@[simp] theorem after_cancelled (s : State) (i : Nat) (t : Task) (es : List Effect) :
    (s.after i t es).cancelled = (s.cancelled || es.any Effect.isCancel) := by rw [after_eq]

@[simp] theorem after_firstError (s : State) (i : Nat) (t : Task) (es : List Effect) :
    (s.after i t es).firstError = s.firstError := by rw [after_eq]

@[simp] theorem after_closing (s : State) (i : Nat) (t : Task) (es : List Effect) :
    (s.after i t es).closing = s.closing := by rw [after_eq]

@[simp] theorem after_events (s : State) (i : Nat) (t : Task) (es : List Effect) :
    (s.after i t es).events = s.events ++ es.filterMap (Effect.event? (i + 1)) := by rw [after_eq]

/-- Remarks about progress go to one stream, ids to the other. -/
@[simp] theorem after_out (s : State) (i : Nat) (t : Task) (es : List Effect) :
    (s.after i t es).console.out = s.console.out := by
  rw [after_eq]
  show ((es.filterMap Effect.remark?).foldl Console.status s.console).out = s.console.out
  generalize s.console = console
  induction es.filterMap Effect.remark? generalizing console with
  | nil => rfl
  | cons line lines ih => exact ih (console.status line)

/-! ## Creations -/

/-- All results have been collected, and the recorder has ended. -/
def Done (s : State) : Prop := s.allJoined = true ∧ s.drained = true

/-- The moves of a creation: the state before, the step and the state after. -/
inductive Moves (c : Context) : State → Action → State → Prop where
  | task {s : State} {position : Nat} {step : TaskStep} {t u : Task} {effects : List Effect}
    (ht : s.tasks[position]? = some t)
    (hm : Task.Moves c (position + 1) s.cancelled t step u effects) :
    Moves c s (.task position step) (s.after position u effects)
  | record {s id rest} (hc : s.channel = id :: rest) :
    Moves c s .record { s with
      channel := rest
      recorded := s.recorded ++ [id]
      group := s.group.map (·.insert id)
      console := s.console.print id.text
      events := s.events ++ [.recorded id] }
  | drain {s} (hc : s.channel = []) (ho : ∀ t ∈ s.tasks, t.phase.isOver = true)
    (hd : s.drained = false) : Moves c s .drain { s with drained := true }
  | join {s position given r} (ht : s.tasks[position]? = some ⟨.ended r, given⟩) :
    Moves c s (.join position) (s.collect position ⟨.ended r, given⟩ r)
  | store {s result g} (hr : s.closing = .running) (hg : s.toStore c = some g) (hd : s.Done) :
    Moves c s (.store result)
      { s with closing := .stored result, events := s.events ++ [.stored g] }
  | finishStored {s stored} (hr : s.closing = .stored stored) (hd : s.Done) :
    Moves c s .finish { s with closing := .returned (s.result stored) }
  | finish {s} (hr : s.closing = .running) (hg : s.toStore c = none) (hd : s.Done) :
    Moves c s .finish { s with closing := .returned (s.result (.ok ())) }

variable {c : Context} {s s' : State} {a : Action}

theorem Moves.step_eq (h : Moves c s a s') : s.step c a = some s' := by
  cases h with
  | task ht hm => simp only [step, ht, hm.step_eq, Option.map_some]; rfl
  | record hc => simp only [step, hc]
  | drain hc ho hd =>
    have hall : s.tasks.all (·.phase.isOver) = true := List.all_eq_true.2 ho
    simp [step, hc, hall, hd]
  | join ht => simp only [step, ht]
  | store hr hg hd => simp [step, hr, hg, hd.1, hd.2]
  | finishStored hr hd => simp [step, hr, hd.1, hd.2]
  | finish hr hg hd => simp [step, hr, hg, hd.1, hd.2]

theorem moves_of_step (h : s.step c a = some s') : Moves c s a s' := by
  cases a with
  | task position step =>
    simp only [State.step] at h
    split at h
    · cases h
    · rename_i t ht
      obtain ⟨⟨u, effects⟩, hu, rfl⟩ := Option.map_eq_some_iff.1 h
      exact .task ht (Task.moves_of_step hu)
  | record =>
    simp only [State.step] at h
    split at h
    · cases h
    · cases h; exact .record ‹_›
  | drain =>
    simp only [State.step] at h
    split at h
    · rename_i hd
      simp only [Bool.and_eq_true, List.isEmpty_iff, List.all_eq_true, Bool.not_eq_true'] at hd
      cases h
      exact .drain hd.1.1 hd.1.2 hd.2
    · cases h
  | join position =>
    simp only [State.step] at h
    split at h
    · rename_i t ht
      obtain ⟨phase, given⟩ := t
      cases phase <;> cases h
      exact .join ht
    · cases h
  | store result =>
    simp only [State.step] at h
    split at h
    · rename_i g hr hg
      split at h
      · rename_i hd
        cases h
        exact .store hr hg (by simpa [Done] using hd)
      · cases h
    · cases h
  | finish =>
    simp only [State.step] at h
    split at h
    · rename_i hd
      have hd : s.Done := by simpa [Done] using hd
      split at h
      · cases h; exact .finishStored ‹_› hd
      · cases h; exact .finish ‹_› ‹_› hd
      · cases h
    · cases h

end State

end BuildFleet.Creation
