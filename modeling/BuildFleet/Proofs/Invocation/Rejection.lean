import BuildFleet.Proofs.Creation.Success
import BuildFleet.Proofs.GroupStore.Files
import BuildFleet.Proofs.Invocation.Moves
/-!
# What a rejection leaves (`CreateController`)

An invocation that fails before it has asked for an instance has not begun to create: its group was not
to be had, or what it was asked for was refused. All files are as they were then, with one exception
(`rejection_leaves_files`). A new group is made before the rest is looked at, so where the rest is refused
the group stays, empty, and the same command cannot be repeated (`blank_type_leaves_group`).
-/
namespace BuildFleet

namespace Creation.State

variable {c : Context} {group : Option Group} {s : State}

/-- Where nothing was asked for, no task has moved. -/
theorem Reached.idle_of_no_requests (h : Reached c group s) (hr : requests s.events = []) :
    s.cancelled = false ∧ ∀ t ∈ s.tasks, t.phase = .idle := by
  obtain ⟨actions, h⟩ := h
  refine run_history (P := fun _ s => requests s.events = [] →
    s.cancelled = false ∧ ∀ t ∈ s.tasks, t.phase = .idle) ?_ ?_ h hr
  · intro _
    refine ⟨rfl, fun t ht => ?_⟩
    rw [List.eq_of_mem_replicate ht]
    rfl
  · intro actions s a u _ hs hm hr
    cases hm with
    | task ht hm =>
      rw [after_events, requests, List.filterMap_append, List.append_eq_nil_iff] at hr
      obtain ⟨hcancelled, hidle⟩ := hs hr.1
      have hphase := hidle _ (List.mem_of_getElem? ht)
      cases hm with
      | call => simp [Effect.event?] at hr
      | noticed hc => rw [hcancelled] at hc; cases hc
      | crash hp => rcases hp with rfl | rfl | ⟨_, _, rfl⟩ <;> cases hphase
      | _ => cases hphase
    | record => exact hs (by simpa [requests] using hr)
    | drain => exact hs hr
    | join ht =>
      have hphase := (hs hr).2 _ (List.mem_of_getElem? ht)
      cases hphase
    | store => exact hs (by simpa [requests] using hr)
    | finishStored => exact hs hr
    | finish => exact hs hr

theorem Reached.requests_ne_nil (h : Reached c group s) (hcount : 1 ≤ c.options.count)
    {result : Except Error Outcome} (hr : s.closing = .returned result) : requests s.events ≠ [] := by
  intro hnone
  have hidle := (h.idle_of_no_requests hnone).2
  obtain ⟨actions, h⟩ := h
  obtain ⟨t, ht⟩ := exists_task h hcount
  have hmem := List.mem_of_getElem? ht
  obtain ⟨r, hjoined⟩ := allJoined_iff.1 (done_of_returned h hr).1 t hmem
  rw [hidle t hmem] at hjoined
  cases hjoined

end Creation.State

namespace Invocation

open Creation (Outcome prepare requests)
open GroupStore

variable {v : Invocation} {files files' : FileSystem} {actions : List Action}

theorem found_of_created {name : String} (hchoice : v.choice = .created name) :
    (v.choice.fromFiles v.groupDir).run files =
      (((Files.create v.groupDir name).run files).1.map some,
        ((Files.create v.groupDir name).run files).2) := by
  simp only [hchoice, Choice.fromFiles, FileProgram.run_bind]
  rfl

theorem files_of_found (files : FileSystem) (hchoice : ∀ name, v.choice ≠ .created name) :
    ((v.choice.fromFiles v.groupDir).run files).2 = files := by
  cases hc : v.choice with
  | none => rfl
  | created name => exact absurd hc (hchoice name)
  | loaded name =>
    simp only [Choice.fromFiles, FileProgram.run_bind]
    exact Files.load_run_files

theorem content?_of_not_found {e : GroupStore.Error}
    (h : (v.choice.fromFiles v.groupDir).run files = (.error e, files')) (l : Location) :
    files'.content? l = files.content? l := by
  by_cases hchoice : ∃ name, v.choice = .created name
  · obtain ⟨name, hchoice⟩ := hchoice
    rw [found_of_created hchoice] at h
    obtain ⟨hresult, hfiles⟩ := Prod.mk.inj h
    cases hr : ((Files.create v.groupDir name).run files).1 with
    | error cause => exact Files.content?_of_create_error (Prod.ext hr hfiles) l
    | ok g =>
      rw [hr] at hresult
      cases hresult
  · have hfiles := files_of_found files (not_exists.1 hchoice)
    rw [h] at hfiles
    exact congrArg (FileSystem.content? · l) hfiles

/-- **A rejection leaves the files alone, but for a new group** (`CreateController`). An invocation
that fails before it has asked for an instance has not begun to create: its group was not to be had,
or what it was asked for was refused. If its group was not to be had, or is not a new one, every
file has the content that it had, and no file was added. If a new group was made, and then the rest
was refused, the group is there and was not before; it is empty, and nothing else has changed. -/
theorem rejection_leaves_files {e : CommandError} {last : Option Creation.State}
    (h : v.run files v.start actions = some (.returned (.error e) last, files'))
    (hrequests : ∀ s ∈ last, requests s.events = []) :
    last = none ∧
      ((∃ cause, e = .group cause) ∨
        ∃ cause, e = .create cause ∧ prepare v.options v.outputDir = .error cause) ∧
      ((∃ cause, e = .group cause) ∨ (∀ name, v.choice ≠ .created name) →
        ∀ l, files'.content? l = files.content? l) ∧
      ∀ name cause, v.choice = .created name → e = .create cause →
        (Files.load v.groupDir name).run files = (.error (.notFound name), files) ∧
          (Files.load v.groupDir name).run files' = (.ok ⟨name, []⟩, files') ∧
          ∃ l, files'.locate (Files.pathOf v.groupDir name) = .ok l ∧
            ∀ l', l' ≠ l → files'.content? l' = files.content? l' := by
  generalize hresult : (Except.error e : Except CommandError Outcome) = result at h
  cases course_of_run h with
  | refused hfound =>
    cases hresult
    exact ⟨rfl, .inl ⟨_, rfl⟩, fun _ => content?_of_not_found hfound, fun _ _ _ he => by cases he⟩
  | rejected hfound hp =>
    cases hresult
    refine ⟨rfl, .inr ⟨_, rfl, hp⟩, fun hc l => ?_, fun name _ hchoice _ => ?_⟩
    · have hchoice := hc.resolve_left fun ⟨_, he⟩ => by cases he
      have hfiles := files_of_found files hchoice
      rw [hfound] at hfiles
      exact congrArg (FileSystem.content? · l) hfiles
    · rw [found_of_created hchoice] at hfound
      obtain ⟨hmade, hfiles⟩ := Prod.mk.inj hfound
      cases hr : ((Files.create v.groupDir name).run files).1 with
      | error cause =>
        rw [hr] at hmade
        cases hmade
      | ok g =>
        obtain ⟨rfl, hbefore, hafter, hothers⟩ := Files.create_run_eq_ok (Prod.ext hr hfiles)
        exact ⟨hbefore, Files.load_run_eq_ok_iff.2 hafter, hothers⟩
  | returned hfound hp hs hc hf =>
    have hcount : 1 ≤ v.options.count := (Creation.exists_prepare_iff.1 ⟨_, hp⟩).1
    rw [← (Creation.context_of_prepare hp).1] at hcount
    exact absurd (hrequests _ rfl) (hs.requests_ne_nil hcount hc)

/-- An active group, and instances of a blank type. -/
def fleetForBlank : Invocation := ⟨{ builderType := " " }, .loaded "fleet", "/groups", .ok "/out"⟩

theorem fleetForBlank_leaves_files :
    let files := Files.oneGroup "fleet.json" ⟨"fleet", ["a"]⟩
    ∃ files', fleetForBlank.run files fleetForBlank.start [.file, .file] =
        some (.returned (.error (.create (.invalidRequest .blankBuilderType))) none, files') ∧
      ∀ l, files'.content? l = files.content? l := by
  intro files
  have key : ∀ files', fleetForBlank.run files fleetForBlank.start [.file, .file] =
      some (.returned (.error (.create (.invalidRequest .blankBuilderType))) none, files') →
      ∀ l, files'.content? l = files.content? l := by
    intro files' h
    obtain ⟨-, -, hunchanged, -⟩ := rejection_leaves_files h (fun _ hs => by cases hs)
    exact hunchanged (.inr fun _ he => by cases he)
  exact ⟨_, rfl, key _ rfl⟩

/-- A new group, for instances of a blank type. -/
def freshForBlank : Invocation := ⟨{ builderType := " " }, .created "fresh", "/groups", .ok "/out"⟩

/-- The blank type is refused, and the new group is there nonetheless: the second time it is in the
way. -/
theorem blank_type_leaves_group :
    let after : FileSystem :=
      (FileSystem.empty.put ["groups"] .directory).put ["groups", "fresh.json"]
        (.file (Group.document ⟨"fresh", []⟩))
    freshForBlank.run .empty freshForBlank.start [.file, .file, .file, .file] =
        some (.returned (.error (.create (.invalidRequest .blankBuilderType))) none, after) ∧
      freshForBlank.run after freshForBlank.start [.file, .file] =
        some (.returned (.error (.group (.alreadyExists "fresh"))) none, after) :=
  ⟨rfl, rfl⟩

end Invocation

end BuildFleet
