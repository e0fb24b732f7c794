import BuildFleet.Proofs.Creation.Commit
import BuildFleet.Proofs.Invocation.Rejection
/-!
# What a failure leaves when all or nothing is to be kept (`GroupCommitPolicy`)

An invocation that is to keep all or nothing, and of which a task has failed, stores nothing at its end.
So the files are as its group was found in them: those from before, unless the group is a new one
(`failure_saves_nothing`). A new group is made before the first instance is asked for and is not taken
away again, so after a failure it is there, empty, and the same command does not work a second time
(`failed_new_group_remains`).
-/
namespace BuildFleet.Invocation

open Creation (Outcome)
open Creation.State (Reached)
open GroupStore

variable {v : Invocation} {files files' : FileSystem} {actions : List Action} {name : String}
  {context : Creation.Context} {s : Creation.State} {answer : Except GroupStore.Error Unit}

/-- Where nothing is to be stored, the end of a creation leaves the files alone. -/
theorem files_of_nothing_stored (hnone : s.toStore context = none)
    (hf : v.storing context s files = (answer, files')) : files' = files := by
  simp only [storing, hnone] at hf
  exact (congrArg Prod.snd hf).symm

/-- When a task has failed, a creation that is to keep all or nothing has nothing to store, and returns
an error. -/
theorem nothing_stored_of_failed {group : Option Group} (hs : Reached context group s) (hd : s.Done)
    (hpolicy : context.options.policy = .allOrNothing)
    (hfailed : ∃ t ∈ s.tasks, t.phase ≠ .joined .succeeded) :
    s.toStore context = none ∧ ∀ answer, ∃ e, s.result answer = .error e := by
  obtain ⟨creation, hcreation⟩ := hs
  obtain ⟨t, ht, hphase⟩ := hfailed
  have hall : ¬∀ t ∈ s.tasks, t.phase = .joined .succeeded := fun hall => hphase (hall t ht)
  constructor
  · refine Option.eq_none_iff_forall_ne_some.2 fun g hg => ?_
    rcases ((Creation.State.toStore_eq_some_iff hcreation hd).1 hg).1 with hp | hp
    · rw [hpolicy] at hp
      cases hp
    · exact hall hp
  · intro answer
    cases hfirst : s.firstError with
    | none => exact absurd ((Creation.State.firstError_eq_none_iff hcreation hd).1 hfirst) hall
    | some e => exact ⟨e, by simp only [Creation.State.result, hfirst]⟩

theorem create_of_found {group : Option Group} (hchoice : v.choice = .created name)
    (hfound : (v.choice.fromFiles v.groupDir).run files = (.ok group, files')) :
    ∃ g, (Files.create v.groupDir name).run files = (.ok g, files') := by
  rw [found_of_created hchoice] at hfound
  obtain ⟨hmade, hfiles⟩ := Prod.mk.inj hfound
  cases hr : ((Files.create v.groupDir name).run files).1 with
  | error cause =>
    rw [hr] at hmade
    cases hmade
  | ok g => exact ⟨g, Prod.ext hr hfiles⟩

/-- An invocation with a new group fails at once where there is a group of that name. -/
theorem refused_of_holds {g : Group} (hchoice : v.choice = .created name)
    (hheld : Files.Holds files v.groupDir name g) {result : Except CommandError Outcome}
    {last : Option Creation.State}
    (h : v.run files v.start actions = some (.returned result last, files')) :
    result = .error (.group (.alreadyExists name)) ∧ last = none ∧ files' = files := by
  have hrefused : (v.choice.fromFiles v.groupDir).run files =
      (.error (.alreadyExists name), files) := by
    rw [found_of_created hchoice, Files.create_run_of_holds hheld]
    rfl
  cases course_of_run h with
  | refused hfound =>
    rw [hrefused] at hfound
    cases hfound
    exact ⟨rfl, rfl, rfl⟩
  | rejected hfound hp =>
    rw [hrefused] at hfound
    cases hfound
  | returned hfound hp hs hc hf =>
    rw [hrefused] at hfound
    cases hfound

/-- **A failure saves nothing but a new group** (`GroupCommitPolicy`). When a task of an invocation
that is to keep all or nothing has failed, the invocation returns an error. Without a new group
nothing at all has changed in the files. A new group, which was not there before, is there and
empty, and nothing else has changed; so whatever happens when the same is asked for again, it is
refused because the group exists. -/
theorem failure_saves_nothing {result : Except CommandError Outcome}
    (hpolicy : v.options.policy = .allOrNothing)
    (h : v.run files v.start actions = some (.returned result (some s), files'))
    (hfailed : ∃ t ∈ s.tasks, t.phase ≠ .joined .succeeded) :
    (∃ e, result = .error (.create e)) ∧
      ((∀ name, v.choice ≠ .created name) → files' = files) ∧
      ∀ name, v.choice = .created name →
        (Files.load v.groupDir name).run files = (.error (.notFound name), files) ∧
          (Files.load v.groupDir name).run files' = (.ok ⟨name, []⟩, files') ∧
          (∃ l, files'.locate (Files.pathOf v.groupDir name) = .ok l ∧
            ∀ l', l' ≠ l → files'.content? l' = files.content? l') ∧
          ∀ again result last files'',
            v.run files' v.start again = some (.returned result last, files'') →
            result = .error (.group (.alreadyExists name)) ∧ last = none ∧ files'' = files' := by
  cases course_of_run h with
  | returned hfound hp hs hc hf =>
    have hd : s.Done := by
      obtain ⟨creation, hcreation⟩ := hs
      exact Creation.State.done_of_returned hcreation hc
    rw [← (Creation.context_of_prepare hp).1] at hpolicy
    obtain ⟨hnone, hresult⟩ := nothing_stored_of_failed hs hd hpolicy hfailed
    obtain rfl := files_of_nothing_stored hnone hf
    refine ⟨?_, fun hchoice => ?_, fun name hchoice => ?_⟩
    · obtain ⟨e, he⟩ := hresult _
      exact ⟨e, by rw [he]; rfl⟩
    · have hfiles := files_of_found files hchoice
      rwa [hfound] at hfiles
    -- A new group is in its file before anything is created, and nothing is stored after that.
    · obtain ⟨g, hcreated⟩ := create_of_found hchoice hfound
      obtain ⟨rfl, hbefore, hafter, hothers⟩ := Files.create_run_eq_ok hcreated
      exact ⟨hbefore, Files.load_run_eq_ok_iff.2 hafter, hothers,
        fun again result last files'' hagain => refused_of_holds hchoice hafter hagain⟩

/-- Two instances for the active group `fleet`, all or nothing. -/
def twoForFleet : Invocation :=
  ⟨{ builderType := "linux", count := 2, policy := .allOrNothing }, .loaded "fleet", "/groups",
    .ok "/out"⟩

/-- The group is found and one instance is created and recorded; the other request fails. -/
def secondRefused : List Action :=
  [.file, .file, .creation (.task 0 .call), .creation (.task 0 (.replied (.ok ()) .zero)),
    .creation (.task 0 (.item (.ok (.complete ⟨"b"⟩)) .zero)), .creation (.task 1 .call),
    .creation (.task 1 (.replied (.ok ()) .zero)), .creation (.task 1 .streamEnded),
    .creation (.task 1 .raise), .creation .record, .creation (.join 0), .creation (.join 1),
    .creation .drain, .creation .finish]

theorem secondRefused_saves_nothing :
    let files := Files.oneGroup "fleet.json" ⟨"fleet", ["a"]⟩
    ∃ s files', twoForFleet.run files twoForFleet.start secondRefused =
        some (.returned (.error (.create (.streamEnded 2))) (some s), files') ∧
      s.recorded = [⟨"b"⟩] ∧ files' = files := by
  intro files
  have key : ∀ s files', twoForFleet.run files twoForFleet.start secondRefused =
      some (.returned (.error (.create (.streamEnded 2))) (some s), files') →
      (∃ t ∈ s.tasks, t.phase ≠ .joined .succeeded) → files' = files := by
    intro s files' h hfailed
    exact (failure_saves_nothing rfl h hfailed).2.1 fun _ he => by cases he
  have hfailed : (⟨.joined (.failed (.streamEnded 2)), none⟩ : Creation.Task).phase ≠
      .joined .succeeded := by
    intro he
    cases he
  exact ⟨_, _, rfl, rfl, key _ _ rfl ⟨_, .tail _ (.head _), hfailed⟩⟩

/-- A new group, for one instance, all or nothing. -/
def freshForOne : Invocation :=
  ⟨{ builderType := "linux", policy := .allOrNothing }, .created "fresh", "/groups", .ok "/out"⟩

def onlyRefused : List Action :=
  [.file, .file, .file, .file, .creation (.task 0 .call),
    .creation (.task 0 (.replied (.ok ()) .zero)), .creation (.task 0 .streamEnded),
    .creation (.task 0 .raise), .creation (.join 0), .creation .drain, .creation .finish]

/-- Although its only request has failed and nothing else is to be kept then, the invocation leaves a
file for its new group, which is in the way the second time. -/
theorem failed_new_group_remains :
    let after : FileSystem :=
      (FileSystem.empty.put ["groups"] .directory).put ["groups", "fresh.json"]
        (.file (Group.document ⟨"fresh", []⟩))
    (∃ last, freshForOne.run .empty freshForOne.start onlyRefused =
        some (.returned (.error (.create (.streamEnded 1))) last, after)) ∧
      freshForOne.run after freshForOne.start [.file, .file] =
        some (.returned (.error (.group (.alreadyExists "fresh"))) none, after) :=
  ⟨⟨_, rfl⟩, rfl⟩

end BuildFleet.Invocation
