import BuildFleet.Proofs.Creation.RootCause
import Mathlib.Algebra.Ring.Nat
/-!
# A failure brings the creation to its end (`create`)

Once a task has failed, the creation returns whatever the service and the setup commands still do, or
do not do: a task that waits for them is stopped by the cancellation, and what a task does otherwise it
does by itself. Three collaborators are taken to come back: the search for the source tree, the saving
of what a build script wrote, and the store (`Replies`).

Each step that the program takes by itself (`State.Unaided`) leaves less to do (`Moves.work_lt`), and in
a creation with a failure there is such a step until it has returned (`exists_unaided`).
-/
namespace BuildFleet.Creation

/-! ## Steps without help -/

/-- What the collaborators answer that always come back: where the source tree of a task is, how the
saving of a task's output and the held-back result of its build script turn out, and how storing
goes. -/
structure Replies where
  root : Nat → Except Setup.Error String
  saved : Nat → Except Setup.Error Unit
  stored : Except GroupStore.Error Unit

/-- The step needs nothing from the service, a stream of updates or a setup command. -/
def State.Unaided (r : Replies) (s : State) : Action → Prop
  | .task _ (.replied ..) | .task _ (.item ..) | .task _ .streamEnded => False
  | .task _ (.crash _) | .task _ (.setup .exited) => False
  | .task i (.setup (.resolved result)) => result = r.root i
  | .task i (.setup (.finished result)) =>
    result = r.saved i ∧ ∃ job root given, s.tasks[i]? = some ⟨.setup job (.saving root), given⟩
  | .store result => result = r.stored
  | _ => True

/-- A run of such steps. -/
inductive UnaidedRun (c : Context) (r : Replies) : State → List Action → State → Prop where
  | nil {s} : UnaidedRun c r s [] s
  | cons {s a u actions t} (ha : s.Unaided r a) (hstep : s.step c a = some u)
    (h : UnaidedRun c r u actions t) : UnaidedRun c r s (a :: actions) t

/-- Every task has ended and was collected, so that nothing can be handed to the recorder any more; the
recorder has ended, and the creation has returned. -/
structure State.Over (s : State) : Prop where
  joined : ∀ t ∈ s.tasks, ∃ r, t.phase = .joined r
  channel : s.channel = []
  drained : s.drained = true
  returned : ∃ result, s.closing = .returned result

/-! ## What is left to do -/

/-- How many steps a setup that is at a stage takes by itself at most, to the end of its task. -/
def stageWork : Setup.Stage → Nat
  | .resolving => 7
  | .announcing .. => 6
  | .starting .. => 5
  | .running .. => 4
  | _ => 3

def Phase.work : Phase → Nat
  | .idle => 4
  | .calling | .streaming => 3
  | .setup _ stage => stageWork stage
  | .failing _ => 2
  | .ended _ => 1
  | .joined _ => 0

def Closing.work : Closing → Nat
  | .running => 2
  | .stored _ => 1
  | .returned _ => 0

/-- How many steps a creation takes by itself at most. -/
def State.work (s : State) : Nat :=
  (s.tasks.map fun t => t.phase.work).sum + s.channel.length + (if s.drained then 0 else 1) +
    s.closing.work

theorem sum_map_set_lt {α : Type} {f : α → Nat} {l : List α} {i : Nat} {a b : α}
    (h : l[i]? = some a) (hlt : f b < f a) : ((l.set i b).map f).sum < (l.map f).sum := by
  induction l generalizing i with
  | nil => cases h
  | cons x l ih =>
    cases i with
    | zero =>
      cases h
      simpa using hlt
    | succ i =>
      have := ih h
      simpa using this

section
variable {c : Context} {r : Replies} {s u : State} {a : Action}

/-- A task that moves by itself has less to do, and hands nothing over. -/
theorem Task.Moves.work_lt {i : Nat} {t v : Task} {step : TaskStep} {effects : List Effect}
    (hm : Task.Moves c (i + 1) s.cancelled t step v effects) (ht : s.tasks[i]? = some t)
    (ha : s.Unaided r (.task i step)) :
    v.phase.work < t.phase.work ∧ effects.filterMap Effect.created? = [] := by
  -- A result can only come from the saving, which is the last a task does.
  have hsaving : ∀ result, step = .setup (.finished result) →
      ∃ job root, t.phase = .setup job (.saving root) := by
    rintro result rfl
    obtain ⟨-, job, root, given, ht'⟩ := ha
    rw [ht] at ht'
    cases ht'
    exact ⟨job, root, rfl⟩
  cases hm with
  | call => exact ⟨by simp [Phase.work], rfl⟩
  | rootFound => exact ⟨by simp [Phase.work, stageWork], rfl⟩
  | rootLost => exact ⟨by simp [Phase.work, stageWork], rfl⟩
  | announced => refine ⟨by simp [Phase.work, stageWork], ?_⟩; split <;> rfl
  | started => exact ⟨by simp [Phase.work, stageWork], rfl⟩
  | pushed => obtain ⟨_, _, h⟩ := hsaving _ rfl; cases h
  | ran => obtain ⟨_, _, h⟩ := hsaving _ rfl; cases h
  | commandFailed => obtain ⟨_, _, h⟩ := hsaving _ rfl; cases h
  | saved => exact ⟨by simp [Phase.work, stageWork], rfl⟩
  | savedFailure => exact ⟨by simp [Phase.work, stageWork], rfl⟩
  | commandNoticed => exact ⟨by simp [Phase.work, stageWork], rfl⟩
  | noticed _ hp => rcases hp with rfl | rfl | rfl <;> exact ⟨by simp [Phase.work], rfl⟩
  | raise => exact ⟨by simp [Phase.work], rfl⟩
  | _ => exact ha.elim

theorem State.Moves.work_lt (hm : State.Moves c s a u) (ha : s.Unaided r a) : u.work < s.work := by
  cases hm with
  | task ht hm =>
    obtain ⟨hlt, hcreated⟩ := hm.work_lt ht ha
    have hsum := sum_map_set_lt (f := fun t : Task => t.phase.work) ht hlt
    simp only [State.work, State.after_tasks, State.after_channel, State.after_drained,
      State.after_closing, hcreated, List.append_nil]
    omega
  | record hc => simp [State.work, hc]
  | drain _ _ hd => simp [State.work, hd]
  | join ht =>
    rename_i i given result
    have hlt : (Phase.joined result).work < (Phase.ended result).work := Nat.zero_lt_one
    have hsum := sum_map_set_lt (f := fun t : Task => t.phase.work) (b := ⟨.joined result, given⟩) ht hlt
    show _ + _ + _ + _ < _ + _ + _ + _
    exact Nat.add_lt_add_right (Nat.add_lt_add_right (Nat.add_lt_add_right hsum _) _) _
  | store hr => simp [State.work, hr, Closing.work]
  | finishStored hr => simp [State.work, hr, Closing.work]
  | finish hr => simp [State.work, hr, Closing.work]

theorem UnaidedRun.length_add_work_le {actions : List Action} (h : UnaidedRun c r s actions u) :
    actions.length + u.work ≤ s.work := by
  induction h with
  | nil => simp
  | cons ha hstep _ ih =>
    have hlt := (State.moves_of_step hstep).work_lt ha
    rw [List.length_cons]
    omega

theorem UnaidedRun.run_eq {actions : List Action} (h : UnaidedRun c r s actions u) :
    s.run c actions = some u := by
  induction h with
  | nil => rfl
  | cons _ hstep _ ih => simp [State.run, hstep, ih]

end

/-! ## There is always a step -/

/-- The task has failed, and the cancellation was raised for it. -/
def Phase.isTold : Phase → Bool
  | .ended (.failed _) | .joined (.failed _) | .joined (.crashed _) => true
  | _ => false

/-- A setup that has ended is no setup any more. -/
theorem Task.Path.stage_ne_ended {c : Context} {index : Nat} {steps : List TaskStep}
    {effects : List Effect} {t : Task} (h : Task.Path c index steps effects t) {job : Setup.Job}
    {result : Except Setup.Error Unit} : t.phase ≠ .setup job (.ended result) := by
  induction h with
  | fresh => nofun
  | step h hm ih => cases hm <;> nofun
  | joined h ih => nofun

namespace State

variable {c : Context} {group : Option Group} {console : Console} {actions : List Action}
  {s u : State} {a : Action} {r : Replies}

/-- Something has gone wrong: a task has failed, or the cancellation was raised. -/
def Failing (s : State) : Prop := s.cancelled = true ∨ ∃ i e, s.errorAt i = some e

theorem cancelled_of_isTold (h : (State.initial c group console).run c actions = some s) {t : Task}
    (ht : t ∈ s.tasks) (htold : t.phase.isTold = true) : s.cancelled = true := by
  refine run_history (P := fun _ s => ∀ t ∈ s.tasks, t.phase.isTold = true → s.cancelled = true)
    ?_ ?_ h t ht htold
  · intro t ht htold
    obtain ⟨-, rfl⟩ := List.mem_replicate.1 ht
    cases htold
  · intro actions s a u _ hs hm t ht htold
    cases hm with
    | task hj hm =>
      rw [after_tasks] at ht
      rw [after_cancelled, Bool.or_eq_true]
      rcases List.mem_or_eq_of_mem_set ht with ht | rfl
      · exact .inl (hs t ht htold)
      · cases hm with
        | raise => exact .inr rfl
        | _ => cases htold
    | join hj =>
      rename_i given result
      rcases List.mem_or_eq_of_mem_set ht with ht | rfl
      · simp [collect, hs t ht htold]
      · cases result with
        | succeeded => cases htold
        | failed e => simp [collect, hs _ (List.mem_of_getElem? hj) rfl]
        | crashed detail => simp [collect]
    | _ => exact hs t ht htold

/-- What has gone wrong stays wrong. -/
theorem Failing.after_move (hs : s.Failing) (hm : Moves c s a u) : u.Failing := by
  rcases hs with hc | ⟨i, e, he⟩
  · cases hm with
    | task => exact .inl (by simp [hc])
    | join => exact .inl (by simp [collect, hc])
    | _ => exact .inl hc
  · cases hm with
    | task hj hm =>
      refine .inr ⟨i, e, ?_⟩
      rw [errorAt_after hj]
      split
      · subst i
        exact hm.error_eq ((errorAt_of_getElem? hj).symm.trans he)
      · exact he
    | join hj => exact .inr ⟨i, e, (errorAt_collect hj i).trans he⟩
    | _ => exact .inr ⟨i, e, he⟩

/-- A task that is not over can take a step by itself, unless it waits for an answer and no cancellation
was raised. -/
theorem exists_unaided_task (h : (State.initial c group console).run c actions = some s) {i : Nat}
    {t : Task} (ht : s.tasks[i]? = some t) (hover : t.phase.isOver = false)
    (hc : s.cancelled = true ∨ ∃ e, t.phase = .failing e) :
    ∃ a u, s.Unaided r a ∧ s.step c a = some u := by
  obtain ⟨effects, hp, -⟩ := path_of_run h ht
  obtain ⟨phase, given⟩ := t
  suffices ∃ step v more, s.Unaided r (.task i step) ∧
      Task.Moves c (i + 1) s.cancelled ⟨phase, given⟩ step v more by
    obtain ⟨step, v, more, hstep, hm⟩ := this
    exact ⟨_, _, hstep, (Moves.task ht hm).step_eq⟩
  -- Only a task that is failing can do without the cancellation, which it is about to raise.
  have hcancel : (∀ e, phase ≠ .failing e) → s.cancelled = true := by
    intro hne
    rcases hc with hc | ⟨e, he⟩
    · exact hc
    · exact absurd he (hne e)
  cases phase with
  | idle => exact ⟨.call, _, _, trivial, .call⟩
  | calling => exact ⟨.noticed, _, _, trivial, .noticed (hcancel nofun) (.inr (.inl rfl))⟩
  | streaming => exact ⟨.noticed, _, _, trivial, .noticed (hcancel nofun) (.inr (.inr rfl))⟩
  | setup job stage =>
    cases stage with
    | resolving =>
      cases hr : r.root i with
      | ok root => exact ⟨.setup (.resolved (.ok root)), _, _, hr.symm, .rootFound⟩
      | error e => exact ⟨.setup (.resolved (.error e)), _, _, hr.symm, .rootLost⟩
    | announcing => exact ⟨.setup .announce, _, _, trivial, .announced⟩
    | starting => exact ⟨.setup .start, _, _, trivial, .started⟩
    | running => exact ⟨.setup .noticed, _, _, trivial, .commandNoticed (hcancel nofun)⟩
    | saving =>
      cases hr : r.saved i with
      | ok => exact ⟨.setup (.finished (.ok ())), _, _, ⟨hr.symm, _, _, _, ht⟩, .saved⟩
      | error e => exact ⟨.setup (.finished (.error e)), _, _, ⟨hr.symm, _, _, _, ht⟩, .savedFailure⟩
    | ended => exact absurd rfl hp.stage_ne_ended
  | failing e => exact ⟨.raise, _, _, trivial, .raise⟩
  | ended => cases hover
  | joined => cases hover

theorem exists_unaided_close (hj : s.allJoined = true) :
    s.Over ∨ ∃ a u, s.Unaided r a ∧ s.step c a = some u := by
  have hjoined := allJoined_iff.1 hj
  cases hchannel : s.channel with
  | cons id rest => exact .inr ⟨.record, _, trivial, (Moves.record hchannel).step_eq⟩
  | nil =>
    cases hdrained : s.drained with
    | false =>
      have hover : ∀ t ∈ s.tasks, t.phase.isOver = true := by
        intro t ht
        obtain ⟨result, hresult⟩ := hjoined t ht
        rw [hresult]
        rfl
      exact .inr ⟨.drain, _, trivial, (Moves.drain hchannel hover hdrained).step_eq⟩
    | true =>
      have hdone : s.Done := ⟨hj, hdrained⟩
      cases hclosing : s.closing with
      | running =>
        cases hstore : s.toStore c with
        | none => exact .inr ⟨.finish, _, trivial, (Moves.finish hclosing hstore hdone).step_eq⟩
        | some g => exact .inr ⟨.store r.stored, _, rfl, (Moves.store hclosing hstore hdone).step_eq⟩
      | stored result => exact .inr ⟨.finish, _, trivial, (Moves.finishStored hclosing hdone).step_eq⟩
      | returned result => exact .inl ⟨hjoined, hchannel, hdrained, result, hclosing⟩

/-- In a creation in which something has gone wrong there is a step that it takes by itself, until it
has returned. -/
theorem exists_unaided (h : (State.initial c group console).run c actions = some s)
    (hf : s.Failing) : s.Over ∨ ∃ a u, s.Unaided r a ∧ s.step c a = some u := by
  have hend : ∀ (i : Nat) (t : Task) (result : TaskResult), s.tasks[i]? = some t →
      t.phase = .ended result → ∃ a u, s.Unaided r a ∧ s.step c a = some u := by
    rintro i ⟨phase, given⟩ result ht rfl
    exact ⟨.join i, _, trivial, (Moves.join ht).step_eq⟩
  by_cases hc : s.cancelled = true
  · by_cases hj : s.allJoined = true
    · exact exists_unaided_close hj
    · -- Some task has not been collected: it has ended, or the cancellation lets it move.
      obtain ⟨t, ht, hne⟩ : ∃ t ∈ s.tasks, ∀ result, t.phase ≠ .joined result := by
        by_contra hall
        push Not at hall
        exact hj (allJoined_iff.2 hall)
      obtain ⟨i, hi⟩ := List.getElem?_of_mem ht
      cases hover : t.phase.isOver with
      | false => exact .inr (exists_unaided_task h hi hover (.inl hc))
      | true =>
        cases hp : t.phase with
        | ended result => exact .inr (hend i t result hi hp)
        | joined result => exact absurd hp (hne result)
        | _ => rw [hp] at hover; cases hover
  · -- Nobody was told yet, so the task that has failed still has to tell.
    obtain ⟨i, e, he⟩ := hf.resolve_left hc
    obtain ⟨t, ht, he⟩ := Option.bind_eq_some_iff.1 he
    have htold : t.phase.isTold = false := by
      by_contra htold
      exact hc (cancelled_of_isTold h (List.mem_of_getElem? ht) (by simpa using htold))
    cases hp : t.phase with
    | failing e => exact .inr (exists_unaided_task h ht (by rw [hp]; rfl) (.inr ⟨e, hp⟩))
    | ended result => exact .inr (hend i t result ht hp)
    | joined result =>
      rw [hp] at he htold
      cases result with
      | succeeded => cases he
      | failed e => cases htold
      | crashed detail => cases htold
    | _ => rw [hp] at he; cases he

end State

section
variable {c : Context} {group : Option Group} {console : Console} {actions more : List Action}
  {s u : State} {r : Replies}

theorem UnaidedRun.failing (h : UnaidedRun c r s more u) (hf : s.Failing) : u.Failing := by
  induction h with
  | nil => exact hf
  | cons _ hstep _ ih => exact ih (hf.after_move (State.moves_of_step hstep))

/-- Wherever steps without help have led, there is another one until the creation has returned. -/
theorem UnaidedRun.exists_unaided (h : (State.initial c group console).run c actions = some s)
    (hf : s.Failing) (hrun : UnaidedRun c r s more u) :
    u.Over ∨ ∃ a v, u.Unaided r a ∧ u.step c a = some v := by
  have hu : (State.initial c group console).run c (actions ++ more) = some u := by
    rw [State.run_append, h]
    exact hrun.run_eq
  exact State.exists_unaided hu (hrun.failing hf)

theorem exists_unaidedRun (h : (State.initial c group console).run c actions = some s)
    (hf : s.Failing) : ∃ more u, UnaidedRun c r s more u ∧ u.Over := by
  induction hn : s.work using Nat.strongRecOn generalizing s actions with
  | _ n ih =>
    rcases State.exists_unaided (r := r) h hf with hover | ⟨a, v, ha, hstep⟩
    · exact ⟨[], s, .nil, hover⟩
    · have hm := State.moves_of_step hstep
      have hv : (State.initial c group console).run c (actions ++ [a]) = some v := by
        rw [State.run_concat, h]
        exact hstep
      obtain ⟨more, u, hrun, hover⟩ := ih v.work (hn ▸ hm.work_lt ha) hv (hf.after_move hm) rfl
      exact ⟨a :: more, u, .cons ha hstep hrun, hover⟩

/-- **A failure never leaves the creation stuck** (`create`). From any state in which a task has
failed or did not survive, or in which the cancellation was raised, steps that need nothing from the
service, the streams and the setup commands lead to the end: every task has ended, the recorder has
ended, and the creation has returned. Whichever of these steps are taken, there are at most `s.work`
of them, and none is lacking before the end. -/
theorem returns_after_failure (h : (State.initial c group console).run c actions = some s)
    (hf : s.cancelled = true ∨ ∃ t ∈ s.tasks, ∃ e, t.phase.error? = some e) (r : Replies) :
    (∃ more u, UnaidedRun c r s more u ∧ u.Over) ∧
      ∀ more u, UnaidedRun c r s more u → more.length ≤ s.work ∧
        (u.Over ∨ ∃ a v, u.Unaided r a ∧ u.step c a = some v) := by
  have hfailing : s.Failing := by
    rcases hf with hc | ⟨t, ht, e, he⟩
    · exact .inl hc
    · obtain ⟨i, hi⟩ := List.getElem?_of_mem ht
      exact .inr ⟨i, e, (State.errorAt_of_getElem? hi).trans he⟩
  refine ⟨exists_unaidedRun h hfailing, fun more u hrun => ⟨?_, hrun.exists_unaided h hfailing⟩⟩
  have hlength := hrun.length_add_work_le
  omega

end

/-- Three tasks: the output of the first is being saved, the second waits for the answer to its request,
and the third has not survived, of which nobody knows yet. -/
def lastLost : List Action :=
  [.task 0 .call, .task 0 (.replied (.ok ()) .zero), .task 0 (.item (.ok (.complete ⟨"a"⟩)) .zero),
    .task 0 (.setup (.resolved (.ok "/go"))), .task 0 (.setup .announce), .task 0 (.setup .start),
    .task 0 (.setup (.finished (.ok ()))), .task 0 (.setup .announce), .task 0 (.setup .start),
    .task 0 (.setup .exited), .task 1 .call, .task 2 .call, .task 2 (.crash "lost")]

theorem lastLost_returns :
    ∃ s, (State.initial State.threeSetUp none .working).run State.threeSetUp lastLost = some s ∧
      s.cancelled = false ∧ (∃ t ∈ s.tasks, ∃ e, t.phase.error? = some e) ∧
      ∃ more u, UnaidedRun State.threeSetUp ⟨fun _ => .ok "/go", fun _ => .ok (), .ok ()⟩ s more u ∧
        u.Over := by
  have hlost : ∀ s : State, s.tasks[2]? = some ⟨.ended (.crashed "lost"), none⟩ →
      ∃ t ∈ s.tasks, ∃ e, t.phase.error? = some e :=
    fun s h => ⟨_, List.mem_of_getElem? h, _, rfl⟩
  have key : ∀ s, (State.initial State.threeSetUp none .working).run State.threeSetUp lastLost =
      some s → s.tasks[2]? = some ⟨.ended (.crashed "lost"), none⟩ →
      ∃ more u, UnaidedRun State.threeSetUp ⟨fun _ => .ok "/go", fun _ => .ok (), .ok ()⟩ s more u ∧
        u.Over :=
    fun s h ht => (returns_after_failure h (.inr (hlost s ht)) _).1
  exact ⟨_, rfl, rfl, hlost _ rfl, key _ rfl rfl⟩

end BuildFleet.Creation
