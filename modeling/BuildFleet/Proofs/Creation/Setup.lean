import BuildFleet.Proofs.Creation.Remarks
import BuildFleet.Proofs.Creation.Success
/-!
# What a task does (`create_one`, `setup_instance`)

Remarks about the queue apart, a task does at most what one list says, in the order of that list: it
asks, hands its instance over, and with setup announces the push, pushes, announces the run and runs
(`course`). Where a task is under way its phase says how far it has come (`DeedsFit`); where it has
ended it may have stopped anywhere (`Task.Path.prefix_deeds`). A run is called only when the push has
been answered with success (`Task.Path.pushed_of_run`).
-/
namespace BuildFleet.Creation

/-! ## Deeds -/

/-- The effect is neither a remark about the queue nor the raising of the cancellation. -/
def Effect.isDeed : Effect → Bool
  | .request _ | .created _ | .setup _ => true
  | .waiting _ | .cancel => false

def Event.isDeed : Event → Bool
  | .waiting .. => false
  | _ => true

/-- The announcement of a command, unless its own output is shown. -/
def announcement (job : Setup.Job) (root : String) (phase : Setup.Phase) : List Effect :=
  if job.detailed then [] else [.setup (.notice phase (job.notice root phase))]

def commandEffects (job : Setup.Job) (root : String) (phase : Setup.Phase) : List Effect :=
  announcement job root phase ++ [.setup (.call (job.call root phase))]

/-- What has been done in a setup before a command. -/
def effectsBefore (job : Setup.Job) (root : String) : Setup.Phase → List Effect
  | .push => []
  | .run => commandEffects job root .push

/-- What has been done in a setup that has come to a stage. -/
def stageEffects (job : Setup.Job) : Setup.Stage → List Effect
  | .resolving | .ended _ => []
  | .announcing phase root => effectsBefore job root phase
  | .starting phase root => effectsBefore job root phase ++ announcement job root phase
  | .running phase root => effectsBefore job root phase ++ commandEffects job root phase
  | .saving root => effectsBefore job root .run ++ commandEffects job root .run

def setupEffects (job : Setup.Job) (root : String) : List Effect :=
  commandEffects job root .push ++ commandEffects job root .run

/-- All that a task does that is given an instance. -/
def Context.deeds (c : Context) (id : InstanceId) (root : String) : List Effect :=
  .request c.options.builderType :: .created id ::
    match c.outputDir with
    | none => []
    | some dir => setupEffects (c.job dir id) root

/-- What has been done fits where a task stands that is under way. -/
def DeedsFit (c : Context) : Phase → List Effect → Prop
  | .idle, es => es = []
  | .calling, es | .streaming, es => es = [.request c.options.builderType]
  | .setup job stage, es =>
    es = .request c.options.builderType :: .created job.id :: stageEffects job stage
  | _, _ => True

theorem stageEffects_prefix_setupEffects (job : Setup.Job) (stage : Setup.Stage) :
    ∃ root, stageEffects job stage <+: setupEffects job root := by
  cases stage with
  | resolving => exact ⟨"", List.nil_prefix⟩
  | ended => exact ⟨"", List.nil_prefix⟩
  | announcing phase root =>
    refine ⟨root, ?_⟩
    cases phase
    · exact List.nil_prefix
    · exact List.prefix_append _ _
  | starting phase root =>
    refine ⟨root, ?_⟩
    cases phase
    · simp only [stageEffects, effectsBefore, setupEffects, commandEffects, List.nil_append,
        List.append_assoc]
      exact List.prefix_append _ _
    · simp only [stageEffects, effectsBefore, setupEffects]
      rw [List.prefix_append_right_inj]
      exact List.prefix_append _ _
  | running phase root =>
    refine ⟨root, ?_⟩
    cases phase
    · exact List.prefix_append _ _
    · exact List.prefix_refl _
  | saving root => exact ⟨root, List.prefix_refl _⟩

section
variable {c : Context} {index : Nat} {cancelled : Bool} {t u : Task} {step : TaskStep}
  {more es : List Effect}

/-- A step of a task that is under way does what comes next. -/
theorem Task.Moves.deedsFit (h : Task.Moves c index cancelled t step u more)
    (ht : DeedsFit c t.phase es) : DeedsFit c u.phase (es ++ more.filter Effect.isDeed) := by
  cases h with
  | call =>
    simp only [DeedsFit] at ht
    subst ht
    rfl
  | accepted =>
    simp only [DeedsFit] at ht
    subst ht
    rfl
  | pending =>
    simp only [DeedsFit] at ht
    subst ht
    split <;> rfl
  | handedOver =>
    simp only [DeedsFit] at ht
    subst ht
    rfl
  | rootFound =>
    simp only [DeedsFit] at ht
    subst ht
    rfl
  | announced =>
    rename_i job phase root
    simp only [DeedsFit, stageEffects] at ht
    subst ht
    simp only [DeedsFit, stageEffects, announcement]
    split <;> simp [Effect.isDeed]
  | started =>
    simp only [DeedsFit, stageEffects] at ht
    subst ht
    simp [DeedsFit, stageEffects, commandEffects, Effect.isDeed]
  | pushed =>
    simp only [DeedsFit, stageEffects] at ht
    subst ht
    simp [DeedsFit, stageEffects, effectsBefore]
  | exited =>
    simp only [DeedsFit, stageEffects] at ht
    subst ht
    simp [DeedsFit, stageEffects]
  | _ => trivial

end

namespace Task.Path

variable {c : Context} {index : Nat} {steps : List TaskStep} {effects : List Effect} {t : Task}

theorem deedsFit (h : Path c index steps effects t) :
    DeedsFit c t.phase (effects.filter Effect.isDeed) := by
  induction h with
  | fresh => rfl
  | step h hm ih =>
    rw [List.filter_append]
    exact hm.deedsFit ih
  | joined h ih => trivial

theorem prefix_deeds_of_active (h : Path c index steps effects t)
    (ha : t.phase.isWaiting = true ∨ ∃ job stage, t.phase = .setup job stage) :
    ∃ id root, effects.filter Effect.isDeed <+: c.deeds id root := by
  have hfit := h.deedsFit
  rcases ha with hw | ⟨job, stage, hp⟩
  · have hasked : effects.filter Effect.isDeed <+: [Effect.request c.options.builderType] := by
      obtain ⟨phase, given⟩ := t
      cases phase with
      | idle =>
        have hdone : effects.filter Effect.isDeed = [] := hfit
        exact hdone ▸ List.nil_prefix
      | calling | streaming =>
        have hdone : effects.filter Effect.isDeed = [.request c.options.builderType] := hfit
        exact hdone ▸ List.prefix_refl _
      | _ => cases hw
    exact ⟨⟨""⟩, "", hasked.trans (List.prefix_append [Effect.request c.options.builderType] _)⟩
  · obtain ⟨-, dir, hdir, hjob⟩ := h.setup_job hp
    obtain ⟨root, hroot⟩ := stageEffects_prefix_setupEffects job stage
    rw [hp] at hfit
    refine ⟨job.id, root, ?_⟩
    rw [show effects.filter Effect.isDeed = _ from hfit, Context.deeds, hdir]
    simp only [List.prefix_cons_inj]
    exact hjob ▸ hroot

/-- What a task has done is the beginning of what it is to do, wherever it has stopped. -/
theorem prefix_deeds (h : Path c index steps effects t) :
    ∃ id root, effects.filter Effect.isDeed <+: c.deeds id root := by
  induction h with
  | fresh => exact ⟨⟨""⟩, "", List.nil_prefix⟩
  | step h hm ih =>
    have hpath := h.step hm
    cases hm with
    | call => exact hpath.prefix_deeds_of_active (.inl rfl)
    | pending => exact hpath.prefix_deeds_of_active (.inl rfl)
    | handedOver => exact hpath.prefix_deeds_of_active (.inr ⟨_, _, rfl⟩)
    | announced => exact hpath.prefix_deeds_of_active (.inr ⟨_, _, rfl⟩)
    | started => exact hpath.prefix_deeds_of_active (.inr ⟨_, _, rfl⟩)
    | completed hd =>
      rename_i id _
      refine ⟨id, "", ?_⟩
      rw [List.filter_append, show _ = [Effect.request c.options.builderType] from h.deedsFit,
        Context.deeds, hd]
      exact List.prefix_refl _
    | _ =>
      rw [List.filter_append]
      exact (List.append_nil _).symm ▸ ih
  | joined h ih => exact ih

theorem created_eq (h : Path c index steps effects t) :
    effects.filterMap Effect.created? = t.given.toList := by
  rw [← h.completed]
  induction h with
  | fresh => rfl
  | step h hm ih =>
    rename_i step _ _
    have hstep : [step].filterMap TaskStep.completed? = step.completed?.toList := by
      cases hr : step.completed? <;> simp [hr]
    rw [List.filterMap_append, List.filterMap_append, ih, hm.created, hstep]
  | joined h ih => exact ih

/-- The first answer of a task that has called the run is that the push went well. -/
theorem pushed_of_run (h : Path c index steps effects t) {id : InstanceId} {dir script : String}
    {args : List String} {detailed : Bool}
    (hr : .setup (.call (.run id dir script args detailed)) ∈ effects) :
    (steps.filterMap TaskStep.answer?).head? = some (.ok ()) := by
  induction h with
  | fresh => cases hr
  | step h hm ih =>
    rw [List.filterMap_append]
    rcases List.mem_append.1 hr with hbefore | hnew
    · rw [List.head?_append, ih hbefore]
      rfl
    · cases hm with
      | started =>
        rename_i job phase root
        cases phase with
        | push => simp [Setup.Job.call] at hnew
        | run =>
          have hanswers : _ = answered (.starting .run root) := h.answersFit
          rw [hanswers]
          rfl
      | announced => split at hnew <;> simp at hnew
      | pending => split at hnew <;> simp at hnew
      | _ => simp at hnew
  | joined h ih => exact ih hr

end Task.Path

/-! ## Events -/

theorem makeDir_of_prepare {o : Options} {makeDir : Except IoError String} {c : Context}
    (h : prepare o makeDir = .ok c) {d : String} (hd : c.outputDir = some d) : makeDir = .ok d := by
  unfold prepare at h
  split at h
  · cases h
  split at h
  · cases h
  split at h
  · cases makeDir with
    | error cause => cases h
    | ok dir =>
      cases h
      rw [Option.some.inj hd]
  · cases h
    cases hd

theorem exists_effect {index : Nat} {effects : List Effect} {events : List Event}
    (h : eventsOf index events = effects.filterMap (Effect.event? index)) {event : Event}
    (he : event ∈ events) (hi : event.index? = some index) :
    ∃ e ∈ effects, e.event? index = some event := by
  have hmem : event ∈ eventsOf index events := List.mem_filter.2 ⟨he, by simp [hi]⟩
  rw [h, List.mem_filterMap] at hmem
  exact hmem

theorem isDeed_of_event? {index : Nat} {e : Effect} {event : Event}
    (h : e.event? index = some event) : event.isDeed = e.isDeed := by
  rcases e with _ | _ | _ | (_ | _) | _ <;> cases h <;> rfl

/-- What happens in the course of a task that is given an instance, remarks about the queue apart: one
request for the builder type, the instance handed over, and with setup the push of the source tree and
then the run of the build script without arguments, both on that instance. Where there are several
tasks each command has a notice before it, and else its output is shown. -/
def courseEvents (o : Options) (dir : Option String) (index : Nat) (id : InstanceId)
    (root : String) : List Event :=
  let notice (phase : Setup.Phase) (line : String) : List Event :=
    if o.count = 1 then [] else [.notice index phase line]
  [.requested index o.builderType, .created index id] ++
    match dir with
    | none => []
    | some dir =>
      notice .push
          ("# Pushing GOROOT " ++ Text.quoted root ++ " to " ++ Text.quoted id.text ++ "...") ++
        [.called index (.push id root (decide (o.count = 1)))] ++
        notice .run
          ("# Running " ++ Text.quoted (buildScript o.builderType) ++ " on " ++
            Text.quoted id.text ++ "...") ++
        [.called index (.run id dir (buildScript o.builderType) [] (decide (o.count = 1)))]

theorem deeds_events (c : Context) (index : Nat) (id : InstanceId) (root : String) :
    (c.deeds id root).filterMap (Effect.event? index) =
      courseEvents c.options c.outputDir index id root := by
  cases hdir : c.outputDir with
  | none => simp [Context.deeds, courseEvents, hdir, Effect.event?]
  | some dir =>
    have hdetailed : c.options.detailed = decide (c.options.count = 1) := by
      rw [Options.detailed, beq_eq_decide]
    by_cases hcount : c.options.count = 1
    · rw [decide_eq_true hcount] at hdetailed
      simp only [Context.deeds, hdir, setupEffects, commandEffects, announcement, Context.job,
        hdetailed, if_true, courseEvents, hcount, decide_true]
      rfl
    · rw [decide_eq_false hcount] at hdetailed
      simp only [Context.deeds, hdir, setupEffects, commandEffects, announcement, Context.job,
        hdetailed, Bool.false_eq_true, if_false, courseEvents, hcount, decide_false]
      rfl

namespace State

variable {c : Context} {group : Option Group} {console : Console} {actions : List Action}
  {s : State} {i : Nat}

/-- What has happened to a task is the beginning of its course. -/
theorem prefix_courseEvents (h : (State.initial c group console).run c actions = some s)
    (hi : i < c.options.count) :
    ∃ id root, (eventsOf (i + 1) s.events).filter Event.isDeed <+:
      courseEvents c.options c.outputDir (i + 1) id root := by
  obtain ⟨t, ht⟩ := exists_task h hi
  obtain ⟨effects, hp, he⟩ := path_of_run h ht
  obtain ⟨id, root, hdeeds⟩ := hp.prefix_deeds
  refine ⟨id, root, ?_⟩
  rw [he, filter_filterMap_eq fun _ _ _ => isDeed_of_event?, ← deeds_events]
  exact hdeeds.filterMap _

/-- What a task has handed over is the completion it consumed, and is recorded or about to be. -/
theorem handed_over (h : (State.initial c group console).run c actions = some s)
    (hi : i < c.options.count) {id : InstanceId} (he : .created (i + 1) id ∈ s.events) :
    (i, id) ∈ completions actions ∧ id ∈ s.recorded ++ s.channel := by
  obtain ⟨t, ht⟩ := exists_task h hi
  obtain ⟨effects, hp, hevents⟩ := path_of_run h ht
  obtain ⟨e, hmem, heq⟩ := exists_effect hevents he rfl
  have hcreated : id ∈ effects.filterMap Effect.created? := by
    refine List.mem_filterMap.2 ⟨e, hmem, ?_⟩
    rcases e with _ | _ | _ | (_ | _) | _ <;> cases heq
    rfl
  rw [hp.created_eq, Option.mem_toList] at hcreated
  have hcompletion := (mem_completions_iff h).2 ⟨t, ht, hcreated⟩
  refine ⟨hcompletion, ?_⟩
  rw [recorded_append_channel h]
  exact List.mem_map.2 ⟨_, hcompletion, rfl⟩

theorem pushed_of_run (h : (State.initial c group console).run c actions = some s)
    (hi : i < c.options.count) {id : InstanceId} {dir script : String} {args : List String}
    {detailed : Bool} (he : .called (i + 1) (.run id dir script args detailed) ∈ s.events) :
    (answers i actions).head? = some (.ok ()) := by
  obtain ⟨t, ht⟩ := exists_task h hi
  obtain ⟨effects, hp, hevents⟩ := path_of_run h ht
  obtain ⟨e, hmem, heq⟩ := exists_effect hevents he rfl
  rcases e with _ | _ | _ | (_ | _) | _ <;> cases heq
  exact hp.pushed_of_run hmem

/-- **Everything about the setups is accounted for, at any time** (`setup_instance`). Whatever the
collaborators do and however the steps interleave, what a task has done so far is the beginning of
its course (`courseEvents`): one request, then the instance handed over, then with setup one push
and one run on that instance, in the directory made for this creation, each with one notice before
it where there are several tasks. The instance is the one whose completion the task has consumed,
and the recorder has it or is about to get it; a run comes only after the push has been answered
with success. Nothing else makes requests, calls or notices, and the remarks are the lines of the
events, one under the other where the writers work. -/
theorem setup_accounted_for {o : Options} {makeDir : Except IoError String}
    (hp : prepare o makeDir = .ok c)
    (h : (State.initial c group console).run c actions = some s) :
    (∃ dir : Option String, dir.isSome = o.setup ∧ (∀ d, dir = some d → makeDir = .ok d) ∧
      ∀ i < o.count,
        (∃ id root, (eventsOf (i + 1) s.events).filter Event.isDeed <+:
          courseEvents o dir (i + 1) id root) ∧
        (∀ id, .created (i + 1) id ∈ s.events →
          (i, id) ∈ completions actions ∧ id ∈ s.recorded ++ s.channel) ∧
        ∀ id dir script args detailed,
          .called (i + 1) (.run id dir script args detailed) ∈ s.events →
          (answers i actions).head? = some (.ok ())) ∧
    (∀ event ∈ s.events, ∀ k, event.index? = some k → 1 ≤ k ∧ k ≤ o.count) ∧
    (console = .working → s.console.err.text =
      String.join ((s.events.filterMap Event.remark?).map (· ++ "\n"))) := by
  obtain ⟨rfl, hsetup⟩ := context_of_prepare hp
  refine ⟨⟨c.outputDir, hsetup, ?_, ?_⟩, ?_, ?_⟩
  · intro d hd
    exact makeDir_of_prepare hp hd
  · intro i hi
    refine ⟨prefix_courseEvents h hi, ?_, ?_⟩
    · intro id he
      exact handed_over h hi he
    · intro id dir script args detailed he
      exact pushed_of_run h hi he
  · intro event he k hk
    exact index_le_of_mem_events h he hk
  · rintro rfl
    rw [err_of_working h]

/-- The two tasks that set up what they are given, up to the first task's run. -/
def untilFirstRun : List Action := bothSucceed.take 19

theorem untilFirstRun_accounted :
    ∃ c s, prepare twoSetUp (.ok "/out") = .ok c ∧
      (State.initial c none .working).run c untilFirstRun = some s ∧
      .called 1 (.run ⟨"a"⟩ "/out" "go/src/make.bash" [] false) ∈ s.events ∧
      (answers 0 untilFirstRun).head? = some (.ok ()) := by
  have key : ∀ c s, prepare twoSetUp (.ok "/out") = .ok c →
      (State.initial c none .working).run c untilFirstRun = some s →
      .called 1 (.run ⟨"a"⟩ "/out" "go/src/make.bash" [] false) ∈ s.events →
      (answers 0 untilFirstRun).head? = some (.ok ()) := by
    intro c s hp h he
    obtain ⟨⟨dir, -, -, htasks⟩, -, -⟩ := setup_accounted_for hp h
    exact (htasks 0 (by decide)).2.2 _ _ _ _ _ he
  have he : ∀ s, (State.initial ⟨twoSetUp, some "/out"⟩ none .working).run ⟨twoSetUp, some "/out"⟩
      untilFirstRun = some s →
      .called 1 (.run ⟨"a"⟩ "/out" "go/src/make.bash" [] false) ∈ s.events := by
    intro s h
    obtain rfl := Option.some.inj h
    decide
  exact ⟨_, _, rfl, rfl, he _ rfl, key _ _ rfl rfl (he _ rfl)⟩

end State

end BuildFleet.Creation
