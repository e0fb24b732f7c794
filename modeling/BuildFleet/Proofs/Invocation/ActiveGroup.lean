import BuildFleet.Proofs.GroupStore.Files
import BuildFleet.Proofs.Invocation.Moves
/-!
# Appending to the active group (`CreateController`)

An invocation with an active group changes the file of that group and nothing else, and adds to its list
what was created (`appends_to_active_group`). This takes a file that holds a group of the file's own
name: a group is looked for under the name that was asked for, but stored under the name that its file
gives it, so from a file that was renamed the instances go elsewhere (`renamed_file_is_left`).
-/
namespace BuildFleet.Invocation

open Creation (Outcome)
open Creation.State (Reached)
open GroupStore

variable {v : Invocation} {files files' : FileSystem} {name : String} {g : Group}
  {context : Creation.Context} {s : Creation.State} {answer : Except GroupStore.Error Unit}

/-- The group of an invocation is what its store loads. -/
theorem found_of_loaded (hchoice : v.choice = .loaded name)
    (hload : (Files.load v.groupDir name).run files = (.ok g, files)) :
    (v.choice.fromFiles v.groupDir).run files = (.ok (some g), files) := by
  simp only [hchoice, Choice.fromFiles, FileProgram.run_bind, hload]
  rfl

/-- With a place for every group of a name, storing the group of a creation changes that place and
nothing else, whether there is something to store or not. -/
theorem node?_of_storing {l : Location}
    (hstore : ∀ g', g'.name = name →
      (Files.store v.groupDir g').run files = (.ok (), files.put l (.file g'.document)))
    (hname : ∀ g', s.group = some g' → g'.name = name)
    (hf : v.storing context s files = (answer, files')) {l' : Location} (hl : l' ≠ l) :
    files'.node? l' = files.node? l' := by
  cases hg : s.toStore context with
  | none =>
    simp only [storing, hg] at hf
    cases hf
    rfl
  | some g' =>
    rw [storing_of_toStore hg, hstore g' (hname g' (Creation.State.group_of_toStore hg))] at hf
    cases hf
    exact FileSystem.node?_put_of_ne hl _ _

/-- When a creation returns success, its group is in its file, with what was recorded. -/
theorem holds_of_success (hs : Reached context (some g) s)
    (hf : v.storing context s files = (answer, files')) {outcome : Outcome}
    (hok : s.result answer = .ok outcome) :
    outcome.instances = s.recorded ∧
      Files.Holds files' v.groupDir g.name ⟨g.name, g.instances ++ g.additions s.recorded⟩ := by
  obtain ⟨hfirst, rfl, rfl⟩ := Creation.State.result_eq_ok_iff.1 hok
  have hg : s.toStore context = some (g.insertAll s.recorded) :=
    (Creation.State.toStore_of_firstError hfirst).trans hs.group_eq
  rw [storing_of_toStore hg, Group.insertAll_eq] at hf
  exact ⟨rfl, Files.holds_of_store hf⟩

/-- **Appending to the active group touches that group only** (`CreateController`, `resolve_group`).
Where the file for the active name holds a group of that name, then whatever happens in the creation
and whatever is returned, all other files and all directories are as they were. On success the name
stands for the old list with the instances that were recorded behind it, in the order of recording
and without those that are listed already. -/
theorem appends_to_active_group (hchoice : v.choice = .loaded name)
    (hload : (Files.load v.groupDir name).run files = (.ok g, files)) (hname : g.name = name)
    {actions : List Action} {result : Except CommandError Outcome} {last : Option Creation.State}
    (h : v.run files v.start actions = some (.returned result last, files')) :
    ∃ l, files.locate (Files.pathOf v.groupDir name) = .ok l ∧
      (∀ l', l' ≠ l → files'.node? l' = files.node? l') ∧
      ∀ outcome, result = .ok outcome →
        (∃ s, last = some s ∧ outcome.instances = s.recorded) ∧
        (Files.load v.groupDir name).run files' =
          (.ok ⟨name, g.instances ++ g.additions outcome.instances⟩, files') := by
  subst hname
  have hheld := Files.load_run_eq_ok_iff.1 hload
  -- Any group of that name is stored in the file that was read.
  obtain ⟨l, hl, hstore⟩ := Files.store_run_of_holds hheld
  refine ⟨l, hl, ?_⟩
  have hactive := found_of_loaded hchoice hload
  cases course_of_run h with
  | refused hfound =>
    rw [hactive] at hfound
    cases hfound
  | rejected hfound hp =>
    rw [hactive] at hfound
    cases hfound
    exact ⟨fun _ _ => rfl, fun _ he => by cases he⟩
  | returned hfound hp hs hc hf =>
    rw [hactive] at hfound
    cases hfound
    refine ⟨fun l' => node?_of_storing hstore (fun g' hg' => ?_) hf, fun outcome he => ?_⟩
    · rw [hs.group_eq, Option.map_some, Group.insertAll_eq] at hg'
      cases hg'
      rfl
    · obtain ⟨hinstances, hafter⟩ := holds_of_success hs hf (mapError_eq_ok_iff.1 he)
      rw [hinstances]
      exact ⟨⟨_, rfl, rfl⟩, Files.load_run_eq_ok_iff.2 hafter⟩

/-! ## Files and names -/

def oneForFleet : Invocation := ⟨{ builderType := "linux" }, .loaded "fleet", "/groups", .ok "/out"⟩

/-- The group is found, an instance is created, and the group is stored. -/
def oneCreated (id : String) : List Action :=
  [.file, .file, .creation (.task 0 .call), .creation (.task 0 (.replied (.ok ()) .zero)),
    .creation (.task 0 (.item (.ok (.complete ⟨id⟩)) .zero)), .creation .record, .creation (.join 0),
    .creation .drain, .file, .file, .file, .file, .creation .finish]

theorem oneCreated_appends :
    let files := Files.oneGroup "fleet.json" ⟨"fleet", ["a"]⟩
    ∃ last files', oneForFleet.run files oneForFleet.start (oneCreated "b") =
        some (.returned (.ok ⟨[⟨"b"⟩], some ⟨"fleet", ["a", "b"]⟩⟩) last, files') ∧
      (Files.load "/groups" "fleet").run files' = (.ok ⟨"fleet", ["a", "b"]⟩, files') := by
  intro files
  have key : ∀ last files', oneForFleet.run files oneForFleet.start (oneCreated "b") =
      some (.returned (.ok ⟨[⟨"b"⟩], some ⟨"fleet", ["a", "b"]⟩⟩) last, files') →
      (Files.load "/groups" "fleet").run files' = (.ok ⟨"fleet", ["a", "b"]⟩, files') := by
    intro last files' h
    obtain ⟨l, -, -, hok⟩ := appends_to_active_group (g := ⟨"fleet", ["a"]⟩) rfl rfl rfl h
    exact (hok _ rfl).2
  exact ⟨_, _, rfl, key _ _ rfl⟩

/-- From a file that holds a group of another name, the instances go to the file of that name, which is
made, and the active group stays as it was. -/
theorem renamed_file_is_left :
    let before := Files.oneGroup "fleet.json" ⟨"other", ["a"]⟩
    let after := before.put ["groups", "other.json"] (.file (Group.document ⟨"other", ["a", "b"]⟩))
    (∃ last, oneForFleet.run before oneForFleet.start (oneCreated "b") =
        some (.returned (.ok ⟨[⟨"b"⟩], some ⟨"other", ["a", "b"]⟩⟩) last, after)) ∧
      before.node? ["groups", "other.json"] = none ∧
      (Files.load "/groups" "fleet").run after = (.ok ⟨"other", ["a"]⟩, after) := by
  refine ⟨⟨_, rfl⟩, rfl, ?_⟩
  rfl

end BuildFleet.Invocation
