import BuildFleet.Proofs.Creation.Joining
/-!
# The error that is reported (`is_cancellation`)

A cancellation is raised only because some task has failed for a reason of its own, and a task fails
without such a reason only where the creation is cancelled (`Explained`). This rests on setup
commands that speak of a cancellation only where there is one (`honestSetup`). So among the errors that
are collected there is a root cause whenever there is an error at all, and the first root cause is the
one that is reported.
-/
namespace BuildFleet.Creation

/-- A collaborator of the setup answers that it was cancelled. -/
def TaskStep.saysCancelled : TaskStep → Bool
  | .setup (.resolved (.error e)) | .setup (.finished (.error e)) => e.isCancellation
  | _ => false

def Action.saysCancelled : Action → Bool
  | .task _ step => step.saysCancelled
  | _ => false

section
variable {c : Context} {index : Nat} {cancelled : Bool} {t u : Task} {step : TaskStep}
  {effects : List Effect}

/-- What makes a task fail as a consequence of the cancellation. -/
theorem Task.Moves.cancellation (h : Task.Moves c index cancelled t step u effects) {e : Error}
    (he : u.phase.error? = some e) (hc : e.isCancellation = true) :
    t.phase.error? = some e ∨ cancelled = true ∨ step.saysCancelled = true := by
  cases h with
  | refused => cases he; cases hc
  | broken => cases he; cases hc
  | streamEnded => cases he; cases hc
  | rootLost => cases he; exact .inr (.inr hc)
  | savedFailure => cases he; exact .inr (.inr hc)
  | commandFailed => cases he; exact .inr (.inr hc)
  | commandNoticed h => exact .inr (.inl h)
  | noticed h _ => exact .inr (.inl h)
  | raise => exact .inl he
  | crash => cases he; cases hc
  | _ => cases he

theorem Task.Moves.error_of_cancel (h : Task.Moves c index cancelled t step u effects)
    (hc : effects.any Effect.isCancel = true) : ∃ e, t.phase.error? = some e := by
  cases h with
  | raise => exact ⟨_, rfl⟩
  | pending => split at hc <;> cases hc
  | announced => split at hc <;> cases hc
  | _ => cases hc

end

namespace State

variable {c : Context} {group : Option Group} {console : Console} {actions : List Action}
  {s u : State} {a : Action}

/-- In a run, setups say that they were cancelled only where the creation is cancelled. -/
def honestSetup (c : Context) (s : State) : List Action → Bool
  | [] => true
  | a :: actions => (!a.saysCancelled || s.cancelled) && (s.step c a).all (honestSetup c · actions)

theorem honestSetup_concat (h : s.run c actions = some u)
    (hh : honestSetup c s (actions ++ [a]) = true) :
    honestSetup c s actions = true ∧ (a.saysCancelled = true → u.cancelled = true) := by
  induction actions generalizing s with
  | nil =>
    cases h
    simp only [List.nil_append, honestSetup, Bool.and_eq_true] at hh
    exact ⟨rfl, fun hspoken => by simpa [hspoken] using hh.1⟩
  | cons b actions ih =>
    obtain ⟨t, ht, h⟩ := Option.bind_eq_some_iff.1 h
    simp only [List.cons_append, honestSetup, ht, Option.all_some, Bool.and_eq_true] at hh ⊢
    obtain ⟨hrest, hlast⟩ := ih h hh.2
    exact ⟨⟨hh.1, hrest⟩, hlast⟩

/-- Cancellations have causes, and consequences of a cancellation have a cancellation. -/
structure Explained (s : State) : Prop where
  cause : s.cancelled = true → ∃ i e, s.errorAt i = some e ∧ e.isCancellation = false
  consequence : ∀ i e, s.errorAt i = some e → e.isCancellation = true → s.cancelled = true

theorem errorAt_after {j : Nat} {t : Task} (ht : s.tasks[j]? = some t) (u : Task)
    (effects : List Effect) (i : Nat) :
    (s.after j u effects).errorAt i = if j = i then u.phase.error? else s.errorAt i := by
  have hlt := (List.getElem?_eq_some_iff.1 ht).1
  by_cases hij : j = i
  · subst hij; simp [errorAt, hlt]
  · simp [errorAt, List.getElem?_set_ne hij, hij]

theorem Explained.after_move (hs : s.Explained) (hm : Moves c s a u)
    (hh : a.saysCancelled = true → s.cancelled = true) : u.Explained := by
  cases hm with
  | task ht hm =>
    rename_i j step t v more
    have hat : s.errorAt j = t.phase.error? := errorAt_of_getElem? ht
    refine ⟨fun hc => ?_, fun i e he hc => ?_⟩
    · -- Whoever raises a cancellation now has failed before.
      obtain ⟨i, e, he, hroot⟩ : ∃ i e, s.errorAt i = some e ∧ e.isCancellation = false := by
        rw [after_cancelled, Bool.or_eq_true] at hc
        rcases hc with hc | hc
        · exact hs.cause hc
        · obtain ⟨e, he⟩ := hm.error_of_cancel hc
          cases hroot : e.isCancellation with
          | true => exact hs.cause (hs.consequence j e (hat.trans he) hroot)
          | false => exact ⟨j, e, hat.trans he, hroot⟩
      refine ⟨i, e, ?_, hroot⟩
      rw [errorAt_after ht]
      split
      · subst i; exact hm.error_eq (hat ▸ he)
      · exact he
    · rw [errorAt_after ht] at he
      have hbefore : s.cancelled = true := by
        split at he
        · rcases hm.cancellation he hc with he | hc' | hspoken
          · exact hs.consequence j e (hat.trans he) hc
          · exact hc'
          · exact hh hspoken
        · exact hs.consequence i e he hc
      simp [hbefore]
  | join ht =>
    rename_i j given r
    have hsame := errorAt_collect ht
    refine ⟨fun hc => ?_, fun i e he hc => ?_⟩
    · cases r with
      | crashed detail => exact ⟨j, .crashed detail, by rw [hsame, errorAt_of_getElem? ht]; rfl, rfl⟩
      | _ =>
        obtain ⟨i, e, he, hroot⟩ := hs.cause (by simpa [collect] using hc)
        exact ⟨i, e, by rw [hsame, he], hroot⟩
    · have hbefore := hs.consequence i e (by rw [← hsame, he]) hc
      simp [collect, hbefore]
  | _ => exact ⟨hs.cause, hs.consequence⟩

theorem explained (h : (State.initial c group console).run c actions = some s)
    (hh : honestSetup c (initial c group console) actions = true) : s.Explained := by
  refine run_history (P := fun actions s =>
    honestSetup c (initial c group console) actions = true → s.Explained) ?_ ?_ h hh
  · refine fun _ => ⟨nofun, fun i e he _ => ?_⟩
    by_cases hi : i < c.options.count <;> simp [errorAt, initial, hi, Task.fresh, Phase.error?] at he
  · intro actions s a u hrun hs hm hh
    obtain ⟨hbefore, hlast⟩ := honestSetup_concat hrun hh
    exact (hs hbefore).after_move hm hlast

/-- In the end a task that has not succeeded has failed with an error, and the errors that were
collected have a root cause among them. -/
theorem exists_root_cause (h : (State.initial c group console).run c actions = some s)
    (hh : honestSetup c (initial c group console) actions = true) (hd : s.Done) {t : Task}
    (ht : t ∈ s.tasks) {r : TaskResult} (hp : t.phase = .joined r) (hf : r ≠ .succeeded) :
    ∃ e ∈ s.failures actions, e.isCancellation = false := by
  have hs := explained h hh
  obtain ⟨i, hi⟩ := List.getElem?_of_mem ht
  obtain ⟨e, he⟩ : ∃ e, t.phase.error? = some e := by
    rw [hp]
    cases r with
    | succeeded => exact absurd rfl hf
    | failed e => exact ⟨e, rfl⟩
    | crashed detail => exact ⟨_, rfl⟩
  have hat : s.errorAt i = some e := (errorAt_of_getElem? hi).trans he
  obtain ⟨j, root, hj, hroot⟩ : ∃ i e, s.errorAt i = some e ∧ e.isCancellation = false := by
    cases hc : e.isCancellation with
    | true => exact hs.cause (hs.consequence i e hat hc)
    | false => exact ⟨i, e, hat, hc⟩
  obtain ⟨t', ht', he'⟩ := Option.bind_eq_some_iff.1 hj
  exact ⟨root, (mem_failures h hd).2 ⟨j, t', ht', he'⟩, hroot⟩

/-- A collected error that carries an ordinal is the one that the task with this ordinal failed
with. -/
theorem task_of_index (h : (State.initial c group console).run c actions = some s) (hd : s.Done)
    {e : Error} (he : e ∈ s.failures actions) {k : Nat} (hk : e.index? = some k) :
    1 ≤ k ∧ k ≤ c.options.count ∧ ∃ t, s.tasks[k - 1]? = some t ∧ t.phase = .joined (.failed e) := by
  obtain ⟨i, t, ht, he⟩ := (mem_failures h hd).1 he
  obtain ⟨effects, hp, -⟩ := path_of_run h ht
  obtain rfl : i + 1 = k := by
    rcases hp.index_of_error he with hi | ⟨detail, rfl⟩
    · exact Option.some.inj (hi.symm.trans hk)
    · cases hk
  have hlt := lt_count h ht
  refine ⟨by omega, by omega, t, ht, ?_⟩
  obtain ⟨r, hr⟩ := allJoined_iff.1 hd.1 t (List.mem_of_getElem? ht)
  rw [hr] at he ⊢
  cases r with
  | succeeded => cases he
  | failed e' => cases he; rfl
  | crashed detail => cases he; cases hk

/-- **The reported error is a root cause** (`create`, `is_cancellation`). Where setups are honest
about cancellations, a creation in which a task failed or did not survive returns an error that is
not a consequence of the cancellation: the first such error in the order in which results were
collected. If it carries an ordinal, that is the ordinal of the task that failed with it. -/
theorem reported_error_is_root_cause
    (h : (State.initial c group console).run c actions = some s)
    (hh : honestSetup c (initial c group console) actions = true)
    {result : Except Error Outcome} (hr : s.closing = .returned result)
    (hf : ∃ t ∈ s.tasks, ∃ r, t.phase = .joined r ∧ r ≠ .succeeded) :
    ∃ e, result = .error e ∧ (∀ k, e ≠ .cancelled k) ∧
      (∀ k id phase text, e ≠ .setup k id (.cancelled phase text)) ∧
      (s.failures actions).find? (fun e => !e.isCancellation) = some e ∧
      (joins actions).Perm (List.range c.options.count) ∧
      ∀ k, e.index? = some k → 1 ≤ k ∧ k ≤ c.options.count ∧
        ∃ t, s.tasks[k - 1]? = some t ∧ t.phase = .joined (.failed e) := by
  have hd := done_of_returned h hr
  obtain ⟨t, ht, r, hp, hf⟩ := hf
  obtain ⟨root, hmem, hroot⟩ := exists_root_cause h hh hd ht hp hf
  obtain ⟨e, he⟩ : ∃ e, (s.failures actions).find? (fun e => !e.isCancellation) = some e := by
    refine Option.isSome_iff_exists.1 (List.find?_isSome.2 ⟨root, hmem, ?_⟩)
    simp [hroot]
  have hfirst : s.firstError = some e := by rw [firstError_eq h, selected, he]; rfl
  have hcause : e.isCancellation = false := by simpa using List.find?_some he
  refine ⟨e, ?_, ?_, ?_, he, joins_perm h hd, fun k => task_of_index h hd (List.mem_of_find?_eq_some he)⟩
  · obtain ⟨stored, rfl⟩ := result_of_returned h hr
    simp [State.result, hfirst]
  · rintro k rfl
    cases hcause
  · rintro k id phase text rfl
    cases hcause

/-- Three tasks, the first of which is stopped by its setup and collected before the two that failed by
themselves. -/
def stoppedFirst : List Action :=
  [.task 0 .call, .task 0 (.replied (.ok ()) .zero), .task 0 (.item (.ok (.complete ⟨"a"⟩)) .zero),
    .task 0 (.setup (.resolved (.ok "/go"))), .task 0 (.setup .announce), .task 0 (.setup .start),
    .task 1 .call, .task 1 (.replied (.error (.rpc "no pool")) .zero), .task 1 .raise,
    .task 0 (.setup (.finished (.error (.cancelled .push "a")))), .task 0 .raise, .join 0, .record,
    .task 2 .call, .task 2 (.crash "lost"), .join 2, .join 1, .drain, .finish]

def threeSetUp : Context := ⟨{ builderType := "linux", count := 3, setup := true }, some "/out"⟩

theorem stoppedFirst_reported :
    ∃ s, (initial threeSetUp none .working).run threeSetUp stoppedFirst = some s ∧
      honestSetup threeSetUp (initial threeSetUp none .working) stoppedFirst = true ∧
      (∃ t ∈ s.tasks, ∃ r, t.phase = .joined r ∧ r ≠ .succeeded) ∧
      s.closing = .returned (.error (.crashed "lost")) ∧
      (s.failures stoppedFirst).find? (fun e => !e.isCancellation) = some (.crashed "lost") := by
  have key : ∀ s, (initial threeSetUp none .working).run threeSetUp stoppedFirst = some s →
      s.closing = .returned (.error (.crashed "lost")) →
      (∃ t ∈ s.tasks, ∃ r, t.phase = .joined r ∧ r ≠ .succeeded) →
      (s.failures stoppedFirst).find? (fun e => !e.isCancellation) = some (.crashed "lost") := by
    intro s h hr hf
    obtain ⟨e, he, -, -, hfirst, -⟩ := reported_error_is_root_cause h rfl hr hf
    cases he
    exact hfirst
  refine ⟨_, rfl, rfl, ?_, rfl, key _ rfl rfl ?_⟩ <;>
    exact ⟨⟨.joined (.crashed "lost"), none⟩, List.mem_of_getElem? (i := 2) rfl, _, rfl, nofun⟩

end State

end BuildFleet.Creation
