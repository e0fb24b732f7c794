import BuildFleet.Proofs.Creation.Ending
import BuildFleet.Proofs.Creation.Path
import BuildFleet.Proofs.Group
/-!
# Nothing that was created gets lost (`record_instances`)

A task that consumes the completion of its request hands the instance over in the same step. So the
recorder's list, followed by what is still in the channel, is at any time the list of the instances
that tasks were given, in the order in which they were (`recorded_append_channel`); each task is given
one at most (`nodup_completions`). What the recorder prints, and what it makes of the group, depends on
its list alone (`out_text`, `group_eq`).
-/
namespace BuildFleet.Creation

/-! ## Lists of tasks -/

section
variable {α β : Type} {f : α → Option β}

theorem filterMap_set_of_eq {l : List α} {i : Nat} {a b : α} (h : l[i]? = some a) (hf : f b = f a) :
    (l.set i b).filterMap f = l.filterMap f := by
  induction l generalizing i with
  | nil => rfl
  | cons x l ih =>
    cases i with
    | zero => cases h; simp [List.filterMap_cons, hf]
    | succ i => simp [List.filterMap_cons, ih h]

theorem filterMap_set_perm {l : List α} {i : Nat} {a b : α} {y : β} (h : l[i]? = some a)
    (ha : f a = none) (hb : f b = some y) :
    ((l.set i b).filterMap f).Perm (l.filterMap f ++ [y]) := by
  induction l generalizing i with
  | nil => cases h
  | cons x l ih =>
    cases i with
    | zero =>
      cases h
      simpa [List.filterMap_cons, ha, hb] using (List.perm_append_singleton y _).symm
    | succ i =>
      cases hx : f x with
      | none => simpa [List.filterMap_cons, hx] using ih h
      | some z => simpa [List.filterMap_cons, hx] using ih h

theorem count_map_fst [DecidableEq α] (l : List (α × β)) (a : α) :
    (l.map Prod.fst).count a = (l.filter (·.1 == a)).length := by
  rw [List.count, List.countP_map, List.countP_eq_length_filter]
  rfl

end

/-! ## Handing over -/

section
variable {c : Context} {index : Nat} {cancelled : Bool} {t u : Task} {step : TaskStep}
  {effects : List Effect}

/-- What is handed over is what was consumed. -/
theorem Task.Moves.created (h : Task.Moves c index cancelled t step u effects) :
    effects.filterMap Effect.created? = step.completed?.toList := by
  cases h with
  | pending => split <;> rfl
  | announced => split <;> rfl
  | _ => rfl

theorem Task.Moves.given_eq (h : Task.Moves c index cancelled t step u effects)
    (hs : step.completed? = none) : u.given = t.given := by
  cases h with
  | completed => cases hs
  | handedOver => cases hs
  | _ => rfl

theorem Task.Moves.given_of_completed (h : Task.Moves c index cancelled t step u effects)
    {id : InstanceId} (hs : step.completed? = some id) :
    t.phase.isWaiting = true ∧ u.given = some id := by
  cases h with
  | completed => cases hs; exact ⟨rfl, rfl⟩
  | handedOver => cases hs; exact ⟨rfl, rfl⟩
  | _ => cases hs

end

namespace State

variable {c : Context} {group : Option Group} {console : Console} {actions : List Action}
  {s : State}

/-- The recorder's list and the channel hold what tasks were given, in that order. -/
theorem recorded_append_channel (h : (State.initial c group console).run c actions = some s) :
    s.recorded ++ s.channel = (completions actions).map Prod.snd := by
  refine run_history (P := fun actions s =>
    s.recorded ++ s.channel = (completions actions).map Prod.snd) rfl ?_ h
  intro actions s a u _ hs hm
  rw [completions_concat, List.map_append, ← hs]
  cases hm with
  | task ht hm =>
    rename_i i step _ _ _
    rw [after_recorded, after_channel, hm.created, List.append_assoc]
    cases hc : step.completed? <;> simp [Action.completion?, hc]
  | record hc => simp [Action.completion?, hc]
  | _ => simp [Action.completion?, collect]

/-- The recorder's list is complete when the recorder has ended. -/
theorem recorded_of_drained (h : (State.initial c group console).run c actions = some s)
    (hd : s.drained = true) : s.recorded = (completions actions).map Prod.snd := by
  have hlist := recorded_append_channel h
  rwa [(channel_of_drained h hd).1, List.append_nil] at hlist

theorem perm_given (h : (State.initial c group console).run c actions = some s) :
    ((completions actions).map Prod.snd).Perm (s.tasks.filterMap Task.given) := by
  refine run_history (P := fun actions s =>
    ((completions actions).map Prod.snd).Perm (s.tasks.filterMap Task.given)) ?_ ?_ h
  · simp [initial, completions, Task.fresh]
  · intro actions s a u hrun hs hm
    rw [completions_concat, List.map_append]
    cases hm with
    | task ht hm =>
      rename_i i step t u more
      rw [after_tasks]
      cases hc : step.completed? with
      | none =>
        rw [filterMap_set_of_eq ht (hm.given_eq hc)]
        simpa [Action.completion?, hc] using hs
      | some id =>
        obtain ⟨effects, hp, -⟩ := path_of_run hrun ht
        obtain ⟨hw, hu⟩ := hm.given_of_completed hc
        refine .trans ?_ (filterMap_set_perm ht (hp.given_of_isWaiting hw) hu).symm
        simpa [Action.completion?, hc] using hs.append_right [id]
    | join ht =>
      rw [show (collect s _ _ _).tasks.filterMap Task.given = _ from filterMap_set_of_eq ht rfl]
      simpa [Action.completion?] using hs
    | _ => simpa [Action.completion?] using hs

/-- A task has consumed one completion where it was given an instance, that of the instance, and none
otherwise. -/
theorem completions_filter_eq (h : (State.initial c group console).run c actions = some s) (i : Nat) :
    ((completions actions).filter (·.1 == i)).map Prod.snd =
      (s.tasks[i]?.bind Task.given).toList := by
  rw [completions_filter]
  cases ht : s.tasks[i]? with
  | none =>
    have hlen := List.getElem?_eq_none_iff.1 ht
    rw [length_tasks h] at hlen
    rw [stepsOf_eq_nil h hlen]
    rfl
  | some t =>
    obtain ⟨effects, hp, -⟩ := path_of_run h ht
    rw [hp.completed]
    rfl

theorem mem_completions_iff (h : (State.initial c group console).run c actions = some s)
    {i : Nat} {id : InstanceId} :
    (i, id) ∈ completions actions ↔ ∃ t, s.tasks[i]? = some t ∧ t.given = some id := by
  have hfilter : (i, id) ∈ completions actions ↔
      id ∈ ((completions actions).filter (·.1 == i)).map Prod.snd := by
    simp
  rw [hfilter, completions_filter_eq h, Option.mem_toList, Option.bind_eq_some_iff]

/-- No task is given two instances. -/
theorem nodup_completions (h : (State.initial c group console).run c actions = some s) :
    ((completions actions).map Prod.fst).Nodup := by
  rw [List.nodup_iff_count]
  intro i
  rw [count_map_fst, ← List.length_map Prod.snd, completions_filter_eq h]
  exact Option.length_toList_le

theorem out_text (h : (State.initial c group .working).run c actions = some s) :
    s.console.out = ⟨String.join (s.recorded.map fun id => id.text ++ "\n"), []⟩ := by
  refine run_history (P := fun _ s =>
    s.console.out = ⟨String.join (s.recorded.map fun id => id.text ++ "\n"), []⟩) rfl ?_ h
  intro actions s a u _ hs hm
  cases hm with
  | task => rw [after_out, after_recorded, hs]
  | record =>
    simp only [Console.print, hs, Sink.line]
    simp [String.join, String.append_assoc]
  | _ => exact hs

theorem group_eq (h : (State.initial c group console).run c actions = some s) :
    s.group = group.map fun g => g.insertAll s.recorded := by
  refine run_history (P := fun _ s => s.group = group.map fun g => g.insertAll s.recorded) ?_ ?_ h
  · cases group <;> rfl
  · intro actions s a u _ hs hm
    cases hm with
    | task => rw [after_group, after_recorded, hs]
    | record =>
      simp only [hs, Option.map_map]
      refine congrArg (Option.map · group) (funext fun g => ?_)
      exact (g.insertAll_concat s.recorded _).symm
    | _ => exact hs

/-- **No instance is lost or doubled** (`create_one`, `record_instances`). At any time the
recorder's list and the channel together hold the instance of each task that has consumed a
completion, once for each such task and in the order of the completions. When the creation returns
they are all in the recorder's list; the output is that list, a line each; and the group is the old
one with those of them at its end that it did not list, each where it came first. -/
theorem instances_recorded_once (h : (State.initial c group .working).run c actions = some s) :
    s.recorded ++ s.channel = (completions actions).map Prod.snd ∧
      (s.recorded ++ s.channel).Perm (s.tasks.filterMap Task.given) ∧
      ((completions actions).map Prod.fst).Nodup ∧
      (∀ i id, (i, id) ∈ completions actions → i < c.options.count) ∧
      ∀ result, s.closing = .returned result →
        s.recorded = (completions actions).map Prod.snd ∧
        s.recorded.Perm (s.tasks.filterMap Task.given) ∧
        s.console.out.text = String.join (s.recorded.map fun id => id.text ++ "\n") ∧
        s.group = group.map (fun g => ⟨g.name, g.instances ++ g.additions s.recorded⟩) ∧
        ∀ g ∈ group, g.instances.Nodup →
          ∃ g', s.group = some g' ∧ g'.instances.Nodup ∧ g.instances <+: g'.instances := by
  have hlist := recorded_append_channel h
  have hperm := perm_given h
  refine ⟨hlist, hlist ▸ hperm, nodup_completions h, ?_, ?_⟩
  · intro i id hm
    obtain ⟨t, ht, -⟩ := (mem_completions_iff h).1 hm
    exact lt_count h ht
  · intro result hr
    have hall := recorded_of_drained h (done_of_returned h hr).2
    refine ⟨hall, hall ▸ hperm, by rw [out_text h], ?_, ?_⟩
    · rw [group_eq h]
      exact congrArg (Option.map · group) (funext fun g => g.insertAll_eq s.recorded)
    · intro g hg hn
      refine ⟨g.insertAll s.recorded, ?_, Group.nodup_insertAll hn _, ?_⟩
      · rw [group_eq h, hg, Option.map_some]
      · rw [Group.insertAll_eq]
        exact List.prefix_append _ _

/-- Three tasks: two are given the same instance and then fail in the setup or are cancelled there,
and one does not survive its request. -/
def threeTasks : List Action :=
  [.task 0 .call, .task 0 (.replied (.ok ()) .zero), .task 0 (.item (.ok (.complete ⟨"a"⟩)) .zero),
    .task 1 .call, .task 1 (.replied (.ok ()) .zero), .task 1 (.item (.ok (.complete ⟨"a"⟩)) .zero),
    .record, .task 0 (.setup (.resolved (.error (.sourceRoot "no tree")))), .task 0 .raise,
    .task 1 (.setup (.resolved (.ok "/go"))), .task 1 (.setup .announce), .task 1 (.setup .start),
    .task 1 (.setup .noticed), .task 1 .raise, .task 2 .call, .task 2 (.crash "lost"),
    .join 1, .join 2, .record, .join 0, .drain, .store (.ok ()), .finish]

def threeWithSetup : Context := ⟨{ builderType := "linux", count := 3, setup := true }, some "/out"⟩

def fleet : Group := ⟨"fleet", ["b"]⟩

theorem threeTasks_recorded :
    ∃ s, (initial threeWithSetup (some fleet) .working).run threeWithSetup threeTasks = some s ∧
      s.closing = .returned (.error (.crashed "lost")) ∧ s.recorded = [⟨"a"⟩, ⟨"a"⟩] ∧
      s.recorded.Perm (s.tasks.filterMap Task.given) ∧
      s.group = some ⟨"fleet", ["b"] ++ fleet.additions s.recorded⟩ := by
  have key : ∀ s, (initial threeWithSetup (some fleet) .working).run threeWithSetup threeTasks =
      some s → s.closing = .returned (.error (.crashed "lost")) →
      s.recorded.Perm (s.tasks.filterMap Task.given) ∧
        s.group = some ⟨"fleet", ["b"] ++ fleet.additions s.recorded⟩ := by
    intro s h hr
    obtain ⟨-, hperm, -, hgroup, -⟩ := (instances_recorded_once h).2.2.2.2 _ hr
    exact ⟨hperm, hgroup⟩
  exact ⟨_, rfl, rfl, rfl, key _ rfl rfl⟩

end State

end BuildFleet.Creation
