import BuildFleet.Invocation.Stage
import BuildFleet.Proofs.Creation.Recording
import BuildFleet.Proofs.FileProgram
/-!
# The course of an invocation (`CreateController`)

The steps of an invocation, each with the stage it starts from and the stage it leads to
(`moves_of_step`). An invocation that has the files for itself finds its group as the store gives it,
runs a creation, and stores the group as the store does it: between its steps the files are what these
three leave (`course_of_run`).
-/
namespace BuildFleet

namespace Creation.State

variable {c : Context} {group : Option Group} {s t : State} {a : Action}

/-- A creation with the given group can come to the state. -/
def Reached (c : Context) (group : Option Group) (s : State) : Prop :=
  ∃ actions, (State.initial c group .working).run c actions = some s

theorem Reached.initial : Reached c group (.initial c group .working) := ⟨[], rfl⟩

theorem Reached.after_move (h : Reached c group s) (hm : Moves c s a t) : Reached c group t := by
  obtain ⟨actions, h⟩ := h
  refine ⟨actions ++ [a], ?_⟩
  rw [run_concat, h]
  exact hm.step_eq

/-- Without the store, the end of a creation can only be its return, where nothing is to be stored. -/
theorem Moves.closing_of_running (hm : Moves c s a t) (hc : s.closing = .running)
    (ha : ∀ result, a ≠ .store result) : t.closing = .running ∨
      s.toStore c = none ∧ t = { s with closing := .returned (s.result (.ok ())) } := by
  cases hm with
  | task => exact .inl (by rw [after_closing, hc])
  | store => exact absurd rfl (ha _)
  | finishStored hr => rw [hc] at hr; cases hr
  | finish _ hg _ => exact .inr ⟨hg, rfl⟩
  | _ => exact .inl hc

/-- Once the end has begun, nothing but the return can follow. -/
theorem Reached.finish_of_move (h : Reached c group s) (hc : s.closing ≠ .running)
    (hm : Moves c s a t) :
    ∃ stored, s.closing = .stored stored ∧ t = { s with closing := .returned (s.result stored) } := by
  obtain ⟨actions, h⟩ := h
  have hd := done_of_closing h hc
  rcases hm.closes hd (channel_of_drained h hd.2).1 with ⟨r, rfl⟩ | rfl
  · cases hm with
    | store hr => exact absurd hr hc
  · cases hm with
    | finishStored hr => exact ⟨_, hr, rfl⟩
    | finish hr => exact absurd hr hc

theorem Reached.group_eq (h : Reached c group s) :
    s.group = group.map fun g => g.insertAll s.recorded := by
  obtain ⟨actions, h⟩ := h
  exact State.group_eq h

theorem group_of_toStore {g : Group} (h : s.toStore c = some g) : s.group = some g := by
  unfold toStore at h
  split at h
  · exact h
  · split at h
    · exact h
    · cases h

theorem toStore_of_firstError (h : s.firstError = none) : s.toStore c = s.group := by
  unfold toStore
  cases c.options.policy <;> simp [h]

/-- A creation returns success where no task has failed and storing went well. -/
theorem result_eq_ok_iff {answer : Except GroupStore.Error Unit} {outcome : Outcome} :
    s.result answer = .ok outcome ↔
      s.firstError = none ∧ answer = .ok () ∧ outcome = ⟨s.recorded, s.group⟩ := by
  unfold result
  cases s.firstError <;> rcases answer with e | ⟨⟨⟩⟩ <;> simp [eq_comm]

end Creation.State

namespace Invocation

open Creation (Context Outcome prepare)
open Creation.State (Reached)
open GroupStore (Files.store)

theorem mapError_eq_ok_iff {ε ε' α : Type} {f : ε → ε'} {result : Except ε α} {x : α} :
    result.mapError f = .ok x ↔ result = .ok x := by
  cases result <;> simp [Except.mapError]

/-! ## Moves -/

/-- The moves of an invocation: the stage and the files before, the step, and the stage and the files
after. -/
inductive Moves (v : Invocation) : Stage → FileSystem → Action → Stage → FileSystem → Prop where
  | look {program files} (h : ∀ group, program ≠ .done group) :
    Moves v (.resolving program) files .file (.resolving (program.step files).1) (program.step files).2
  | found {group files} : Moves v (.resolving (.done group)) files .file (v.begin group) files
  | creation {context s a s' files} (ha : ∀ result, a ≠ .store result)
    (hm : Creation.State.Moves context s a s') :
    Moves v (.creating context s) files (.creation a) (.ofState context s') files
  | save {context s g files} (hr : s.closing = .running) (hg : s.toStore context = some g)
    (hd : s.Done) :
    Moves v (.creating context s) files .file (.saving context s (Files.store v.groupDir g)) files
  | write {context s program files} (h : ∀ result, program ≠ .done result) :
    Moves v (.saving context s program) files .file (.saving context s (program.step files).1)
      (program.step files).2
  | saved {context s result s' files} (hm : Creation.State.Moves context s (.store result) s') :
    Moves v (.saving context s (.done result)) files .file (.ofState context s') files

section
variable {v : Invocation} {files files' : FileSystem} {stage stage' : Stage} {a : Action}

theorem moves_of_stepFile (h : v.stepFile files stage = some (stage', files')) :
    Moves v stage files .file stage' files' := by
  cases stage with
  | resolving program =>
    cases program with
    | done => cases h; exact .found
    | _ => cases h; exact .look (fun _ he => by cases he)
  | creating context s =>
    simp only [stepFile] at h
    split at h
    · rename_i g hr hg
      split at h
      · rename_i hd
        cases h
        exact .save hr hg (by simpa [Creation.State.Done] using hd)
      · cases h
    · cases h
  | saving context s program =>
    cases program with
    | done result =>
      obtain ⟨s', hs', h⟩ := Option.map_eq_some_iff.1 h
      cases h
      exact .saved (Creation.State.moves_of_step hs')
    | _ => cases h; exact .write (fun _ he => by cases he)
  | returned => cases h

theorem moves_of_step (h : v.step files stage a = some (stage', files')) :
    Moves v stage files a stage' files' := by
  cases a with
  | file => exact moves_of_stepFile h
  | creation a =>
    obtain ⟨after, hs, h⟩ := Option.map_eq_some_iff.1 h
    cases h
    unfold stepCreation at hs
    split at hs
    · cases hs
    · rename_i hstore
      obtain ⟨s', hs', rfl⟩ := Option.map_eq_some_iff.1 hs
      exact .creation (fun result ha => hstore _ ha) (Creation.State.moves_of_step hs')
    · cases hs

end

/-! ## Undisturbed -/

/-- What storing the group at the end of a creation gives, where it is called for, and the files after
it. -/
def storing (v : Invocation) (context : Context) (s : Creation.State) (files : FileSystem) :
    Except GroupStore.Error Unit × FileSystem :=
  match s.toStore context with
  | none => (.ok (), files)
  | some g => (Files.store v.groupDir g).run files

/-- The files beside the state of a creation that began with `found`. -/
def Stands (v : Invocation) (context : Context) (found : FileSystem) (s : Creation.State)
    (files : FileSystem) : Prop :=
  match s.closing with
  | .running => files = found
  | .stored answer => v.storing context s found = (answer, files)
  | .returned result =>
    ∃ answer, v.storing context s found = (answer, files) ∧ result = s.result answer

/-- How far an invocation has come that started with the files `start` and has them for itself. -/
inductive Course (v : Invocation) (start : FileSystem) : Stage → FileSystem → Prop where
  | resolving {program files}
    (hfound : program.run files = (v.choice.fromFiles v.groupDir).run start) :
    Course v start (.resolving program) files
  | refused {e files} (hfound : (v.choice.fromFiles v.groupDir).run start = (.error e, files)) :
    Course v start (.returned (.error (.group e)) none) files
  | rejected {group e files}
    (hfound : (v.choice.fromFiles v.groupDir).run start = (.ok group, files))
    (hp : prepare v.options v.outputDir = .error e) :
    Course v start (.returned (.error (.create e)) none) files
  | creating {group context s found files}
    (hfound : (v.choice.fromFiles v.groupDir).run start = (.ok group, found))
    (hp : prepare v.options v.outputDir = .ok context) (hs : Reached context group s)
    (hf : v.Stands context found s files) : Course v start (.creating context s) files
  | saving {group context s found g program files}
    (hfound : (v.choice.fromFiles v.groupDir).run start = (.ok group, found))
    (hp : prepare v.options v.outputDir = .ok context) (hs : Reached context group s)
    (hg : s.toStore context = some g)
    (hf : program.run files = (Files.store v.groupDir g).run found) :
    Course v start (.saving context s program) files
  | returned {group context s found answer files}
    (hfound : (v.choice.fromFiles v.groupDir).run start = (.ok group, found))
    (hp : prepare v.options v.outputDir = .ok context) (hs : Reached context group s)
    (hc : s.closing = .returned (s.result answer))
    (hf : v.storing context s found = (answer, files)) :
    Course v start (.returned ((s.result answer).mapError .create) (some s)) files

variable {v : Invocation} {files files' found start : FileSystem} {stage stage' : Stage}
  {a : Action} {context : Context} {s s' : Creation.State} {group : Option Group}

theorem storing_of_toStore {g : Group} (hg : s.toStore context = some g) :
    v.storing context s found = (Files.store v.groupDir g).run found := by
  simp only [storing, hg]

theorem Course.begin {result : Except GroupStore.Error (Option Group)}
    (hfound : (v.choice.fromFiles v.groupDir).run start = (result, files)) :
    Course v start (v.begin result) files := by
  unfold Invocation.begin
  cases result with
  | error e => exact .refused hfound
  | ok group =>
    cases hp : prepare v.options v.outputDir with
    | error e => exact .rejected hfound hp
    | ok context => exact .creating hfound hp .initial rfl

theorem Course.ofState (hfound : (v.choice.fromFiles v.groupDir).run start = (.ok group, found))
    (hp : prepare v.options v.outputDir = .ok context) (hs : Reached context group s)
    (hf : v.Stands context found s files) : Course v start (.ofState context s) files := by
  unfold Stage.ofState
  split
  · rename_i result hc
    obtain ⟨answer, hanswer, rfl⟩ : ∃ answer, v.storing context s found = (answer, files) ∧
        result = s.result answer := by simpa only [Stands, hc] using hf
    exact .returned hfound hp hs hc hanswer
  · exact .creating hfound hp hs hf

/-- The steps of a creation leave the files alone. -/
theorem Stands.after_move {a : Creation.Action} (h : v.Stands context found s files)
    (hs : Reached context group s) (ha : ∀ result, a ≠ .store result)
    (hm : Creation.State.Moves context s a s') : v.Stands context found s' files := by
  by_cases hc : s.closing = .running
  · have hfiles : files = found := by simpa only [Stands, hc] using h
    rcases hm.closing_of_running hc ha with hc' | ⟨hnone, rfl⟩
    · simpa only [Stands, hc'] using hfiles
    · have hstored : v.storing context s found = (.ok (), files) := by
        simp only [storing, hnone, hfiles]
      exact ⟨_, hstored, rfl⟩
  · obtain ⟨answer, hanswer, rfl⟩ := hs.finish_of_move hc hm
    have hstored : v.storing context s found = (answer, files) := by
      simpa only [Stands, hanswer] using h
    exact ⟨_, hstored, rfl⟩

theorem Course.after_move (h : Course v start stage files) (hm : Moves v stage files a stage' files') :
    Course v start stage' files' := by
  cases hm with
  | look =>
    cases h with
    | resolving hfound => exact .resolving ((FileProgram.run_step _ _).trans hfound)
  | found =>
    cases h with
    | resolving hfound => exact .begin hfound.symm
  | creation ha hm =>
    cases h with
    | creating hfound hp hs hf => exact .ofState hfound hp (hs.after_move hm) (hf.after_move hs ha hm)
  | save hr hg hd =>
    cases h with
    | creating hfound hp hs hf =>
      simp only [Stands, hr] at hf
      subst hf
      exact .saving hfound hp hs hg rfl
  | write =>
    cases h with
    | saving hfound hp hs hg hf =>
      exact .saving hfound hp hs hg ((FileProgram.run_step _ _).trans hf)
  | saved hm =>
    cases h with
    | saving hfound hp hs hg hf =>
      refine .ofState hfound hp (hs.after_move hm) ?_
      cases hm with
      | store => exact (storing_of_toStore hg).trans hf.symm

/-- An invocation that has the files for itself runs its course. -/
theorem course_of_run {actions : List Action} (h : v.run start v.start actions = some (stage, files)) :
    Course v start stage files :=
  run_invariant (P := Course v start) (fun _ _ _ _ _ hc hstep => hc.after_move (moves_of_step hstep)) h
    (.resolving rfl)

end Invocation

end BuildFleet
