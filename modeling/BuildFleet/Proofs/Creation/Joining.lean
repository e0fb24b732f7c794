import BuildFleet.Proofs.Creation.Ending
import BuildFleet.Proofs.Creation.Path
import Mathlib.Data.List.Basic
/-!
# Collecting results (`create`)

Results are collected in the order in which `joins` lists the tasks, each once (`count_joins`,
`joins_perm`). The error that is kept is found in the list of the errors in that order: the first that
is not a consequence of the cancellation, and the first of all where there is no such error
(`firstError_eq`).
-/
namespace BuildFleet.Creation

def Phase.error? : Phase → Option Error
  | .failing e => some e
  | .ended r | .joined r => State.errorOf r
  | _ => none

def Phase.isJoined : Phase → Bool
  | .joined _ => true
  | _ => false

/-- The error to report, out of errors in the order in which they were found. -/
def selected (errors : List Error) : Option Error :=
  (errors.find? fun e => !e.isCancellation).or errors.head?

theorem selected_concat (errors : List Error) (e : Error) :
    selected (errors ++ [e]) = State.keep (selected errors) e := by
  unfold selected
  rw [List.find?_append]
  cases hf : errors.find? fun e => !e.isCancellation with
  | some root =>
    have hroot : root.isCancellation = false := by simpa using List.find?_some hf
    simp [State.keep, hroot]
  | none =>
    cases errors with
    | nil => cases hc : e.isCancellation <;> simp [State.keep, hc]
    | cons first rest =>
      have hfirst : first.isCancellation = true := by simpa using List.find?_eq_none.1 hf first
      cases hc : e.isCancellation <;> simp [State.keep, hfirst, hc]

theorem selected_eq_none_iff {errors : List Error} : selected errors = none ↔ errors = [] := by
  cases errors with
  | nil => simp [selected]
  | cons e errors => simp [selected]

section
variable {c : Context} {index : Nat} {cancelled : Bool} {t u : Task} {step : TaskStep}
  {effects : List Effect}

theorem Task.Moves.isJoined_eq_false (h : Task.Moves c index cancelled t step u effects) :
    t.phase.isJoined = false ∧ u.phase.isJoined = false := by
  cases h with
  | noticed _ hp => rcases hp with rfl | rfl | rfl <;> exact ⟨rfl, rfl⟩
  | crash hp => rcases hp with rfl | rfl | ⟨_, _, rfl⟩ <;> exact ⟨rfl, rfl⟩
  | _ => exact ⟨rfl, rfl⟩

theorem Task.Moves.error_eq (h : Task.Moves c index cancelled t step u effects) {e : Error}
    (he : t.phase.error? = some e) : u.phase.error? = some e := by
  cases h with
  | raise => exact he
  | noticed _ hp => rcases hp with rfl | rfl | rfl <;> cases he
  | crash hp => rcases hp with rfl | rfl | ⟨_, _, rfl⟩ <;> cases he
  | _ => cases he

/-- The error of a task carries the task's ordinal. Only a task that did not survive leaves none. -/
theorem Task.Path.index_of_error {steps : List TaskStep}
    (h : Task.Path c index steps effects t) {e : Error} (he : t.phase.error? = some e) :
    e.index? = some index ∨ ∃ detail, e = .crashed detail := by
  induction h with
  | fresh => cases he
  | step h hm ih =>
    cases hm with
    | refused => cases he; exact .inl rfl
    | broken => cases he; exact .inl rfl
    | streamEnded => cases he; exact .inl rfl
    | rootLost => cases he; exact .inl rfl
    | savedFailure => cases he; exact .inl rfl
    | commandFailed => cases he; exact .inl rfl
    | commandNoticed => cases he; exact .inl rfl
    | noticed => cases he; exact .inl rfl
    | raise => exact ih he
    | crash => cases he; exact .inr ⟨_, rfl⟩
    | _ => cases he
  | joined h ih => exact ih he

end

namespace State

variable {c : Context} {group : Option Group} {console : Console} {actions : List Action}
  {s : State}

def errorAt (s : State) (position : Nat) : Option Error :=
  s.tasks[position]?.bind fun t => t.phase.error?

/-- The errors of the tasks, in the order in which results were collected. -/
def failures (s : State) (actions : List Action) : List Error := (joins actions).filterMap s.errorAt

theorem errorAt_of_getElem? {i : Nat} {t : Task} (h : s.tasks[i]? = some t) :
    s.errorAt i = t.phase.error? := by
  simp [errorAt, h]

theorem errorAt_collect {j : Nat} {given : Option InstanceId} {r : TaskResult}
    (h : s.tasks[j]? = some ⟨.ended r, given⟩) (i : Nat) :
    (s.collect j ⟨.ended r, given⟩ r).errorAt i = s.errorAt i := by
  by_cases hij : j = i
  · subst hij
    have hlt := (List.getElem?_eq_some_iff.1 h).1
    rw [errorAt_of_getElem? h]
    simp [errorAt, collect, hlt, Phase.error?]
  · simp [errorAt, collect, List.getElem?_set_ne hij]

/-- The result of a task is collected once, and then its phase says so. -/
theorem count_joins (h : (State.initial c group console).run c actions = some s) (i : Nat) :
    (joins actions).count i = if s.tasks[i]?.any (·.phase.isJoined) then 1 else 0 := by
  refine run_history (P := fun actions s => ∀ i, (joins actions).count i =
    if s.tasks[i]?.any (·.phase.isJoined) then 1 else 0) ?_ ?_ h i
  · intro i
    by_cases hi : i < c.options.count <;> simp [joins, initial, hi, Task.fresh, Phase.isJoined]
  · intro actions s a u _ hs hm i
    rw [joins_concat, List.count_append, hs i]
    cases hm with
    | task ht hm =>
      rename_i j _ _ _ _
      obtain ⟨ht', hu'⟩ := hm.isJoined_eq_false
      obtain ⟨hlt, hget⟩ := List.getElem?_eq_some_iff.1 ht
      by_cases hij : j = i
      · subst hij
        simp [Action.joined?, hlt, hget, ht', hu']
      · simp [Action.joined?, List.getElem?_set_ne hij]
    | join ht =>
      rename_i j _ _
      obtain ⟨hlt, hget⟩ := List.getElem?_eq_some_iff.1 ht
      by_cases hij : j = i
      · subst hij
        simp [Action.joined?, collect, hlt, hget, Phase.isJoined]
      · simp [Action.joined?, collect, List.getElem?_set_ne hij, hij]
    | _ => simp [Action.joined?]

theorem isJoined_of_mem_joins (h : (State.initial c group console).run c actions = some s) {i : Nat}
    (hi : i ∈ joins actions) : ∃ t, s.tasks[i]? = some t ∧ t.phase.isJoined = true := by
  have hpos := List.count_pos_iff.2 hi
  rw [count_joins h] at hpos
  cases ht : s.tasks[i]? with
  | none => simp [ht] at hpos
  | some t =>
    refine ⟨t, rfl, ?_⟩
    by_contra hj
    simp [ht, hj] at hpos

/-- In the end the result of every task has been collected, and that once. -/
theorem joins_perm (h : (State.initial c group console).run c actions = some s) (hd : s.Done) :
    (joins actions).Perm (List.range c.options.count) := by
  rw [List.perm_iff_count]
  intro i
  rw [count_joins h, List.count_range, ← length_tasks h]
  cases ht : s.tasks[i]? with
  | none => simp [Nat.not_lt.2 (List.getElem?_eq_none_iff.1 ht)]
  | some t =>
    obtain ⟨r, hr⟩ := allJoined_iff.1 hd.1 t (List.mem_of_getElem? ht)
    simp [(List.getElem?_eq_some_iff.1 ht).1, hr, Phase.isJoined]

theorem mem_failures (h : (State.initial c group console).run c actions = some s) (hd : s.Done)
    {e : Error} : e ∈ s.failures actions ↔
      ∃ (i : Nat) (t : Task), s.tasks[i]? = some t ∧ t.phase.error? = some e := by
  simp only [failures, List.mem_filterMap, (joins_perm h hd).mem_iff, List.mem_range, errorAt,
    Option.bind_eq_some_iff]
  constructor
  · rintro ⟨i, -, t, ht, he⟩
    exact ⟨i, t, ht, he⟩
  · rintro ⟨i, t, ht, he⟩
    exact ⟨i, lt_count h ht, t, ht, he⟩

/-- In the end there are no errors just where all tasks have succeeded. -/
theorem failures_eq_nil_iff (h : (State.initial c group console).run c actions = some s)
    (hd : s.Done) :
    s.failures actions = [] ↔ ∀ t ∈ s.tasks, t.phase = .joined .succeeded := by
  rw [List.eq_nil_iff_forall_not_mem]
  constructor
  · intro hnone t ht
    obtain ⟨i, hi⟩ := List.getElem?_of_mem ht
    obtain ⟨r, hr⟩ := allJoined_iff.1 hd.1 t ht
    have hno : ∀ e, t.phase.error? ≠ some e := fun e he =>
      hnone e ((mem_failures h hd).2 ⟨i, t, hi, he⟩)
    rw [hr] at hno ⊢
    cases r with
    | succeeded => rfl
    | failed e => exact absurd rfl (hno e)
    | crashed detail => exact absurd rfl (hno (.crashed detail))
  · intro hall e he
    obtain ⟨i, t, ht, he⟩ := (mem_failures h hd).1 he
    rw [hall t (List.mem_of_getElem? ht)] at he
    cases he

/-- The error that is kept, in terms of all that were collected. -/
theorem firstError_eq (h : (State.initial c group console).run c actions = some s) :
    s.firstError = selected (s.failures actions) := by
  refine run_history (P := fun actions s => s.firstError = selected (s.failures actions)) rfl ?_ h
  intro actions s a u hrun hs hm
  unfold failures at hs ⊢
  rw [joins_concat, List.filterMap_append]
  cases hm with
  | task ht hm =>
    rename_i j step t u more
    -- The task that moves has not been collected, so it is none of those in the list.
    have hsame : (joins actions).filterMap (s.after j u more).errorAt =
        (joins actions).filterMap s.errorAt := by
      refine List.filterMap_congr fun i hi => ?_
      obtain ⟨t', ht', hj⟩ := isJoined_of_mem_joins hrun hi
      have hij : j ≠ i := by
        rintro rfl
        rw [ht] at ht'
        cases ht'
        rw [hm.isJoined_eq_false.1] at hj
        cases hj
      simp [errorAt, List.getElem?_set_ne hij]
    simp [Action.joined?, hsame, hs]
  | join ht =>
    rename_i j given r
    have hsame := funext (errorAt_collect ht)
    rw [hsame]
    have hat : s.errorAt j = errorOf r := errorAt_of_getElem? ht
    cases hr : errorOf r with
    | none => simp [Action.joined?, hat, hr, collect, hs]
    | some e => simp [Action.joined?, hat, hr, collect, hs, selected_concat]
  | _ =>
    simp only [Action.joined?, Option.toList_none, List.filterMap_nil, List.append_nil]
    exact hs

end State

end BuildFleet.Creation
