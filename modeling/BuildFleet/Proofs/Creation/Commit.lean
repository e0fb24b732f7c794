import BuildFleet.Proofs.Creation.Joining
import BuildFleet.Proofs.Creation.Recording
/-!
# When the group is stored (`create`)

The store is asked when all tasks are over and the recorder has ended, not before and not twice. It is
asked where there is a group and the policy does not mind failures or there are none, and gets the group
as the recorder has left it. What it answers decides the result only where no task has failed.
-/
namespace BuildFleet.Creation.State

variable {c : Context} {group : Option Group} {console : Console} {actions : List Action}
  {s : State}

/-- The result by the errors of the tasks and the answers of the store. -/
def resultOf (errors : List Error) (answers : List (Except GroupStore.Error Unit))
    (outcome : Outcome) : Except Error Outcome :=
  match selected errors, answers with
  | some e, _ => .error e
  | none, .error e :: _ => .error (.saving e)
  | none, _ => .ok outcome

theorem toStore_of_due (h : (State.initial c group console).run c actions = some s)
    (hdue : c.options.policy = .savePartial ∨ s.failures actions = []) : s.toStore c = s.group := by
  unfold toStore
  split
  · rfl
  · rename_i hp
    have hnil : s.failures actions = [] := hdue.resolve_left (by simp [hp])
    rw [firstError_eq h, hnil]
    rfl

theorem toStore_of_not_due (h : (State.initial c group console).run c actions = some s)
    (hdue : ¬(c.options.policy = .savePartial ∨ s.failures actions = [])) : s.toStore c = none := by
  obtain ⟨hp, hf⟩ := not_or.1 hdue
  unfold toStore
  split
  · contradiction
  · rw [firstError_eq h]
    cases hsel : selected (s.failures actions) with
    | none => exact absurd (selected_eq_none_iff.1 hsel) hf
    | some e => rfl

/-- What was created is to be kept: failures do not matter, or no task has failed. -/
def Due (policy : CommitPolicy) (s : State) : Prop :=
  policy = .savePartial ∨ ∀ t ∈ s.tasks, t.phase = .joined .succeeded

/-- In the end, what is to be stored is the group where it is due, and nothing otherwise. -/
theorem toStore_eq_some_iff (h : (State.initial c group console).run c actions = some s)
    (hd : s.Done) {g : Group} :
    s.toStore c = some g ↔ s.Due c.options.policy ∧ s.group = some g := by
  have hnone := failures_eq_nil_iff h hd
  by_cases hdue : s.Due c.options.policy
  · rw [toStore_of_due h (hdue.imp_right hnone.2)]
    simp [hdue]
  · rw [toStore_of_not_due h fun hwanted => hdue (hwanted.imp_right hnone.1)]
    simp [hdue]

/-- In the end, no error is kept just where all tasks have succeeded. -/
theorem firstError_eq_none_iff (h : (State.initial c group console).run c actions = some s)
    (hd : s.Done) : s.firstError = none ↔ ∀ t ∈ s.tasks, t.phase = .joined .succeeded := by
  rw [firstError_eq h, selected_eq_none_iff, failures_eq_nil_iff h hd]

/-- What has been stored and answered when the creation has returned. -/
theorem stored_of_returned (h : (State.initial c group console).run c actions = some s)
    {result : Except Error Outcome} (hr : s.closing = .returned result) :
    storedGroups s.events = (s.toStore c).toList ∧
      (storeAnswers actions).length = (storedGroups s.events).length ∧
      result = resultOf (s.failures actions) (storeAnswers actions) ⟨s.recorded, s.group⟩ := by
  have hs := closesBy h
  simp only [ClosesBy, hr] at hs
  rcases hs with ⟨hg, hstored, hanswers, rfl⟩ | ⟨r, g, hg, hstored, hanswers, rfl⟩
  · refine ⟨by rw [hg, hstored]; rfl, by rw [hstored, hanswers]; rfl, ?_⟩
    simp only [State.result, resultOf, ← firstError_eq h, hanswers]
    cases s.firstError <;> rfl
  · refine ⟨by rw [hg, hstored]; rfl, by rw [hstored, hanswers]; rfl, ?_⟩
    simp only [State.result, resultOf, ← firstError_eq h, hanswers]
    cases s.firstError <;> rcases r with e | ⟨⟨⟩⟩ <;> rfl

/-- The store is asked once at most, and not before the end. -/
theorem stored_at_end (h : (State.initial c group console).run c actions = some s) :
    (storedGroups s.events).length ≤ 1 ∧ (storedGroups s.events ≠ [] → s.Done) := by
  have hs := closesBy h
  unfold ClosesBy at hs
  split at hs
  · simp [hs.1]
  · rename_i r hc
    obtain ⟨-, g, -, hstored⟩ := hs
    exact ⟨by simp [hstored], fun _ => done_of_closing h (by simp [hc])⟩
  · rename_i result hc
    refine ⟨?_, fun _ => done_of_closing h (by simp [hc])⟩
    rcases hs with ⟨-, hstored, -⟩ | ⟨r, g, -, hstored, -⟩ <;> simp [hstored]

/-- In the end the group lists every instance that a task was given. -/
theorem mem_group_of_given (h : (State.initial c group console).run c actions = some s) (hd : s.Done)
    {g : Group} (hg : s.group = some g) {t : Task} (ht : t ∈ s.tasks) {id : InstanceId}
    (hid : t.given = some id) : id.text ∈ g.instances := by
  have hmem : id ∈ s.recorded := by
    rw [recorded_of_drained h hd.2, (perm_given h).mem_iff]
    exact List.mem_filterMap.2 ⟨t, ht, hid⟩
  rw [group_eq h] at hg
  obtain ⟨g₀, -, rfl⟩ := Option.map_eq_some_iff.1 hg
  exact Group.mem_insertAll.2 (.inr ⟨id, hmem, rfl⟩)

/-- **The group is stored when it should be, and as it should be** (`create`). No call of the store
comes before all tasks are over and everything is recorded, and there is one call at most. When the
creation returns, the store has been called with the recorder's group, which lists all that was
created, just where there is a group and either failures do not matter or there are none. The result
is the selected error of the tasks, else the store's, else success with the group. -/
theorem group_stored_when_due (h : (State.initial c group console).run c actions = some s) :
    (∀ g, .stored g ∈ s.events →
      (∀ t ∈ s.tasks, t.phase.isOver = true) ∧ s.drained = true ∧ s.channel = []) ∧
    (storedGroups s.events).length ≤ 1 ∧
    ∀ result, s.closing = .returned result →
      (∀ g, s.group = some g →
        c.options.policy = .savePartial ∨ (∀ t ∈ s.tasks, t.phase = .joined .succeeded) →
        storedGroups s.events = [g]) ∧
      (¬(group.isSome = true ∧
          (c.options.policy = .savePartial ∨ ∀ t ∈ s.tasks, t.phase = .joined .succeeded)) →
        storedGroups s.events = []) ∧
      s.group = group.map (fun g => g.insertAll s.recorded) ∧
      (∀ g, s.group = some g → ∀ t ∈ s.tasks, ∀ id, t.given = some id → id.text ∈ g.instances) ∧
      (storeAnswers actions).length = (storedGroups s.events).length ∧
      (s.failures actions = [] ↔ ∀ t ∈ s.tasks, t.phase = .joined .succeeded) ∧
      result = resultOf (s.failures actions) (storeAnswers actions) ⟨s.recorded, s.group⟩ := by
  obtain ⟨hone, hend⟩ := stored_at_end h
  refine ⟨fun g hg => ?_, hone, fun result hr => ?_⟩
  · have hne : storedGroups s.events ≠ [] :=
      List.ne_nil_of_mem (List.mem_filterMap.2 ⟨_, hg, rfl⟩ : g ∈ storedGroups s.events)
    have hd := hend hne
    obtain ⟨hnil, hover⟩ := channel_of_drained h hd.2
    exact ⟨hover, hd.2, hnil⟩
  · have hd := done_of_returned h hr
    have hnone := failures_eq_nil_iff h hd
    obtain ⟨hstored, hlength, hresult⟩ := stored_of_returned h hr
    refine ⟨fun g hg hdue => ?_, fun hdue => ?_, group_eq h,
      fun g hg t ht id hid => mem_group_of_given h hd hg ht hid, hlength, hnone, hresult⟩
    · rw [hstored, toStore_of_due h (hdue.imp_right hnone.2), hg]
      rfl
    · rw [hstored]
      by_cases hwanted : c.options.policy = .savePartial ∨ s.failures actions = []
      -- Where the policy is not what stands against the store, there is no group to be stored.
      · have hgroup : group = none := by
          by_contra hg
          exact hdue ⟨Option.isSome_iff_ne_none.2 hg, hwanted.imp_right hnone.1⟩
        rw [toStore_of_due h hwanted, group_eq h, hgroup]
        rfl
      · rw [toStore_of_not_due h hwanted]
        rfl

/-- Two tasks, of which the second fails, and a store that fails as well. -/
def secondFails : List Action :=
  [.task 0 .call, .task 0 (.replied (.ok ()) .zero), .task 0 (.item (.ok (.complete ⟨"a"⟩)) .zero),
    .task 1 .call, .task 1 (.replied (.ok ()) .zero), .task 1 .streamEnded, .task 1 .raise, .join 1,
    .record, .join 0, .drain, .store (.error (.storage "disk full")), .finish]

def twoPartial : Context := ⟨{ builderType := "linux", count := 2 }, none⟩

theorem secondFails_stored :
    ∃ s g, (initial twoPartial (some ⟨"fleet", []⟩) .working).run twoPartial secondFails = some s ∧
      s.group = some g ∧ storedGroups s.events = [g] ∧
      s.closing = .returned (.error (.streamEnded 2)) := by
  have key : ∀ s g, (initial twoPartial (some ⟨"fleet", []⟩) .working).run twoPartial secondFails =
      some s → s.closing = .returned (.error (.streamEnded 2)) → s.group = some g →
      storedGroups s.events = [g] := by
    intro s g h hr hg
    exact ((group_stored_when_due h).2.2 _ hr).1 g hg (.inl rfl)
  exact ⟨_, _, rfl, rfl, key _ _ rfl rfl rfl, rfl⟩

end BuildFleet.Creation.State
