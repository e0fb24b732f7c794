import BuildFleet.Proofs.Creation.History
/-!
# The end of a creation (`create`)

The recorder ends when nothing can come any more, so nothing is left in the channel then
(`channel_of_drained`). The group is stored, and the creation returns, only when the results of all
tasks have been collected and the recorder has ended (`done_of_closing`). From then on the group and
the kept error stay as they are, so the store is asked at most once, and the result is what it answered
together with these (`closesBy`).
-/
namespace BuildFleet.Creation

theorem Task.Moves.isOver_eq_false {c : Context} {index : Nat} {cancelled : Bool} {t u : Task}
    {step : TaskStep} {effects : List Effect} (h : Task.Moves c index cancelled t step u effects) :
    t.phase.isOver = false := by
  cases h with
  | noticed _ hp => rcases hp with rfl | rfl | rfl <;> rfl
  | crash hp => rcases hp with rfl | rfl | ⟨_, _, rfl⟩ <;> rfl
  | _ => rfl

namespace State

variable {c : Context} {group : Option Group} {console : Console} {actions : List Action}
  {s : State}

theorem allJoined_iff : s.allJoined = true ↔ ∀ t ∈ s.tasks, ∃ r, t.phase = .joined r := by
  simp only [allJoined, List.all_eq_true]
  refine forall₂_congr fun t _ => ?_
  split <;> simp_all

/-- When the recorder has ended, all tasks are over and all instances are recorded. -/
theorem channel_of_drained (h : (State.initial c group console).run c actions = some s)
    (hd : s.drained = true) : s.channel = [] ∧ ∀ t ∈ s.tasks, t.phase.isOver = true := by
  refine run_history (P := fun _ s => s.drained = true →
    s.channel = [] ∧ ∀ t ∈ s.tasks, t.phase.isOver = true) (fun h => by cases h) ?_ h hd
  intro actions s a u _ hs hm hd
  cases hm with
  | task ht hm =>
    have hover := (hs (by simpa using hd)).2 _ (List.mem_of_getElem? ht)
    rw [hm.isOver_eq_false] at hover
    cases hover
  | record hc =>
    have hnil := (hs hd).1
    rw [hc] at hnil
    cases hnil
  | drain hc ho _ => exact ⟨hc, ho⟩
  | join ht =>
    refine ⟨(hs hd).1, fun t hmem => ?_⟩
    rcases List.mem_or_eq_of_mem_set hmem with hmem | rfl
    · exact (hs hd).2 t hmem
    · rfl
  | store => exact hs hd
  | finishStored => exact hs hd
  | finish => exact hs hd

/-- Nothing of the end happens before everything is done. -/
theorem done_of_closing (h : (State.initial c group console).run c actions = some s)
    (hc : s.closing ≠ .running) : s.Done := by
  refine run_history (P := fun _ s => s.closing ≠ .running → s.Done)
    (fun hc => absurd rfl hc) ?_ h hc
  intro actions s a u _ hs hm hc
  cases hm with
  | task ht hm =>
    obtain ⟨r, hr⟩ := allJoined_iff.1 (hs (by simpa using hc)).1 _ (List.mem_of_getElem? ht)
    have hover := hm.isOver_eq_false
    rw [hr] at hover
    cases hover
  | record => exact hs hc
  | drain => exact ⟨(hs hc).1, rfl⟩
  | join ht =>
    refine ⟨allJoined_iff.2 fun t hmem => ?_, (hs hc).2⟩
    rcases List.mem_or_eq_of_mem_set hmem with hmem | rfl
    · exact allJoined_iff.1 (hs hc).1 t hmem
    · exact ⟨_, rfl⟩
  | store _ _ hd => exact hd
  | finishStored _ hd => exact hd
  | finish _ _ hd => exact hd

/-- Only the end is left when everything is done. -/
theorem Moves.closes {u : State} {a : Action} (hm : Moves c s a u) (hd : s.Done)
    (hc : s.channel = []) : (∃ r, a = .store r) ∨ a = .finish := by
  have hjoined := allJoined_iff.1 hd.1
  cases hm with
  | task ht hm =>
    obtain ⟨r, hr⟩ := hjoined _ (List.mem_of_getElem? ht)
    have hover := hm.isOver_eq_false
    rw [hr] at hover
    cases hover
  | record hc' => rw [hc] at hc'; cases hc'
  | drain _ _ hd' => rw [hd.2] at hd'; cases hd'
  | join ht =>
    obtain ⟨r, hr⟩ := hjoined _ (List.mem_of_getElem? ht)
    cases hr
  | store => exact .inl ⟨_, rfl⟩
  | finishStored => exact .inr rfl
  | finish => exact .inr rfl

theorem done_of_returned (h : (State.initial c group console).run c actions = some s)
    {r : Except Error Outcome} (hr : s.closing = .returned r) : s.Done :=
  done_of_closing h (by simp [hr])

/-! ## The store -/

/-- The groups that the store was asked to keep. -/
def storedGroups (events : List Event) : List Group :=
  events.filterMap fun
    | .stored g => some g
    | _ => none

theorem storedGroups_append (before after : List Event) :
    storedGroups (before ++ after) = storedGroups before ++ storedGroups after :=
  List.filterMap_append ..

theorem storedGroups_effects (index : Nat) (effects : List Effect) :
    storedGroups (effects.filterMap (Effect.event? index)) = [] := by
  refine List.filterMap_eq_nil_iff.2 fun event he => ?_
  obtain ⟨e, -, he⟩ := List.mem_filterMap.1 he
  rcases e with _ | _ | _ | (_ | _) | _ <;> cases he <;> rfl

/-- How the store was used and what is returned, by how far the end has come. -/
def ClosesBy (c : Context) (s : State) (answers : List (Except GroupStore.Error Unit)) : Prop :=
  match s.closing with
  | .running => storedGroups s.events = [] ∧ answers = []
  | .stored r => answers = [r] ∧ ∃ g, s.toStore c = some g ∧ storedGroups s.events = [g]
  | .returned result =>
    (s.toStore c = none ∧ storedGroups s.events = [] ∧ answers = [] ∧ result = s.result (.ok ())) ∨
      ∃ r g, s.toStore c = some g ∧ storedGroups s.events = [g] ∧ answers = [r] ∧ result = s.result r

theorem closesBy (h : (State.initial c group console).run c actions = some s) :
    s.ClosesBy c (storeAnswers actions) := by
  refine run_history (P := fun actions s => s.ClosesBy c (storeAnswers actions)) ?_ ?_ h
  · exact ⟨rfl, rfl⟩
  intro actions s a u hrun hs hm
  rw [storeAnswers_concat]
  by_cases hc : s.closing = .running
  · obtain ⟨hstored, hanswers⟩ : storedGroups s.events = [] ∧ storeAnswers actions = [] := by
      simpa only [ClosesBy, hc] using hs
    cases hm with
    | task ht hm =>
      simp [ClosesBy, hc, storedGroups_append, storedGroups_effects, hstored, hanswers,
        Action.storeAnswer?]
    | record =>
      simp only [ClosesBy, hc, storedGroups_append, hstored]
      simp [hanswers, Action.storeAnswer?, storedGroups]
    | drain => simp [ClosesBy, hc, hstored, hanswers, Action.storeAnswer?]
    | join => simp [ClosesBy, collect, hc, hstored, hanswers, Action.storeAnswer?]
    | store _ hg _ =>
      refine ⟨by simp [hanswers, Action.storeAnswer?], _, hg, ?_⟩
      rw [storedGroups_append, hstored]
      rfl
    | finishStored hr => rw [hc] at hr; cases hr
    | finish _ hg _ => exact .inl ⟨hg, hstored, by simp [hanswers, Action.storeAnswer?], rfl⟩
  · -- Everything is done, so that nothing but the return can follow, and that only after the store.
    have hd := done_of_closing hrun hc
    rcases hm.closes hd (channel_of_drained hrun hd.2).1 with ⟨r, rfl⟩ | rfl
    · cases hm with
      | store hr => exact absurd hr hc
    · cases hm with
      | finish hr => exact absurd hr hc
      | finishStored hr =>
        rename_i r _
        obtain ⟨hanswers, g, hg, hstored⟩ : storeAnswers actions = [r] ∧
            ∃ g, s.toStore c = some g ∧ storedGroups s.events = [g] := by
          simpa only [ClosesBy, hr] using hs
        exact .inr ⟨r, g, hg, hstored, by simp [hanswers, Action.storeAnswer?], rfl⟩

/-- What is returned is made of the kept error, the recorder's list, the group and the store's
answer. -/
theorem result_of_returned (h : (State.initial c group console).run c actions = some s)
    {result : Except Error Outcome} (hr : s.closing = .returned result) :
    ∃ stored, result = s.result stored := by
  have hs := closesBy h
  simp only [ClosesBy, hr] at hs
  rcases hs with ⟨-, -, -, h⟩ | ⟨r, g, -, -, -, h⟩
  · exact ⟨_, h⟩
  · exact ⟨_, h⟩

end State

end BuildFleet.Creation
