import BuildFleet.Proofs.Invocation.ActiveGroup
import BuildFleet.Proofs.Invocation.AllOrNothing
/-!
# The history of a group (`CreateController`)

Invocations that run one after the other with one active group (`Turns`) leave a file for the group that
can always be read. Each adds what it has recorded, if that is to be kept, and otherwise changes nothing
(`Turn.files_eq`). So the list of a group that was made empty only grows, and lists nothing twice
(`group_only_grows`).
-/
namespace BuildFleet.Invocation

open Creation (Outcome)
open GroupStore

/-- An invocation with an active group, from when it finds the files until it has returned, with the
files for itself; `last` is the last state of its creation, if that has begun. -/
structure Turn (dir name : String) (v : Invocation) (last : Option Creation.State)
    (files files' : FileSystem) : Prop where
  groupDir : v.groupDir = dir
  choice : v.choice = .loaded name
  run : ∃ actions result, v.run files v.start actions = some (.returned result last, files')

/-- The files after some invocations with one active group, one after the other. -/
inductive Turns (dir name : String) (start : FileSystem) : FileSystem → Prop where
  | none : Turns dir name start start
  | next {v last files files'} (h : Turns dir name start files)
    (ht : Turn dir name v last files files') : Turns dir name start files'

variable {dir name : String} {v : Invocation} {last : Option Creation.State}
  {before start files files' : FileSystem} {g : Group} {l : Location}

/-- What an invocation makes of the files: where its instances are to be kept it writes the file of its
group, and nothing has changed otherwise. -/
theorem Turn.files_eq (ht : Turn dir g.name v last files files')
    (hheld : Files.Holds files dir g.name g) (hl : files.Leads (Files.pathOf dir g.name) l) :
    ((∀ s, last = some s → ¬s.Due v.options.policy) ∧ files' = files) ∨
      ∃ s, last = some s ∧ s.Due v.options.policy ∧
        files' = files.put l (.file (g.insertAll s.recorded).document) := by
  obtain ⟨rfl, hchoice, actions, result, h⟩ := ht
  have hactive := found_of_loaded hchoice (Files.load_run_eq_ok_iff.2 hheld)
  obtain ⟨place, hplace, hstore⟩ := Files.store_run_of_holds hheld
  obtain rfl : place = l := Except.ok.inj (hplace.symm.trans hl.locate)
  cases course_of_run h with
  | refused hfound =>
    rw [hactive] at hfound
    cases hfound
  | rejected hfound hp =>
    rw [hactive] at hfound
    cases hfound
    exact .inl ⟨(fun _ he => by cases he), rfl⟩
  | returned hfound hp hs hc hf =>
    rename_i context s found answer
    rw [hactive] at hfound
    cases hfound
    have hgroup : s.group = some (g.insertAll s.recorded) := hs.group_eq
    obtain ⟨creation, hcreation⟩ := hs
    have hkept (g' : Group) := Creation.State.toStore_eq_some_iff (g := g') hcreation
      (Creation.State.done_of_returned hcreation hc)
    rw [(Creation.context_of_prepare hp).1] at hkept
    by_cases hdue : s.Due v.options.policy
    · have hstored := (hkept _).2 ⟨hdue, hgroup⟩
      have hname : (g.insertAll s.recorded).name = g.name := by rw [Group.insertAll_eq]
      rw [storing_of_toStore hstored, hstore _ hname] at hf
      exact .inr ⟨s, rfl, hdue, (congrArg Prod.snd hf).symm⟩
    · have hnone : s.toStore context = none :=
        Option.eq_none_iff_forall_ne_some.2 fun g' hg' => hdue ((hkept g').1 hg').1
      refine .inl ⟨fun _ he => ?_, files_of_nothing_stored hnone hf⟩
      cases he
      exact hdue

theorem nodup_append_additions {old : List String} (hold : old.Nodup) (ids : List InstanceId) :
    (old ++ Group.additions ⟨name, old⟩ ids).Nodup := by
  have h := Group.nodup_insertAll (g := ⟨name, old⟩) hold ids
  rwa [Group.insertAll_eq] at h

/-- The group that a name stands for after an invocation, by the list that it had before. -/
theorem Turn.holds {old : List String} (ht : Turn dir name v last files files')
    (hheld : Files.Holds files dir name ⟨name, old⟩) : ∃ new,
    Files.Holds files' dir name ⟨name, new⟩ ∧ old <+: new ∧ (old.Nodup → new.Nodup) ∧
      (∀ s, last = some s → s.Due v.options.policy →
        new = old ++ Group.additions ⟨name, old⟩ s.recorded) ∧
      ((∀ s, last = some s → ¬s.Due v.options.policy) → new = old) := by
  obtain ⟨l, content, hl, hnode⟩ := hheld.exists_leads
  rcases Turn.files_eq (g := ⟨name, old⟩) ht hheld hl with ⟨hnot, rfl⟩ | ⟨s, rfl, hdue, rfl⟩
  · exact ⟨old, hheld, List.prefix_refl _, id, fun s hs hdue => absurd hdue (hnot s hs),
      fun _ => rfl⟩
  · have hfile : files.node? l ≠ some .directory := by simp [hnode]
    refine ⟨old ++ Group.additions ⟨name, old⟩ s.recorded, ?_, List.prefix_append _ _,
      fun hold => nodup_append_additions hold _, ?_, fun hnot => absurd hdue (hnot s rfl)⟩
    · rw [Group.insertAll_eq]
      exact Files.holds_of_write hheld.1 (FileSystem.write_of_leads hl hfile _)
    · rintro _ he -
      cases he
      rfl

/-- An invocation changes nothing but the file of its active group. -/
theorem Turn.others (ht : Turn dir g.name v last files files')
    (hheld : Files.Holds files dir g.name g) :
    (∀ other, other ≠ g.name →
      ((Files.load dir other).run files').1 = ((Files.load dir other).run files).1) ∧
      ∃ l, files.locate (Files.pathOf dir g.name) = .ok l ∧
        ∀ l', l' ≠ l → files'.node? l' = files.node? l' := by
  obtain ⟨l, content, hl, hnode⟩ := hheld.exists_leads
  rcases ht.files_eq hheld hl with ⟨-, rfl⟩ | ⟨s, -, -, rfl⟩
  · exact ⟨fun _ _ => rfl, l, hl.locate, fun _ _ => rfl⟩
  · exact ⟨fun other hother => Files.load_run_put_of_ne hheld.1 hl hnode hother, l, hl.locate,
      fun l' hl' => FileSystem.node?_put_of_ne hl' files _⟩

/-- After any invocations, the file of a group that was made empty can be read, and lists nothing
twice. -/
theorem Turns.holds (h : Turns dir name start files)
    (hheld : Files.Holds start dir name ⟨name, []⟩) :
    ∃ list, Files.Holds files dir name ⟨name, list⟩ ∧ list.Nodup := by
  induction h with
  | none => exact ⟨[], hheld, List.nodup_nil⟩
  | next _ ht ih =>
    obtain ⟨old, hold, hnodup⟩ := ih
    obtain ⟨new, hnew, -, hkeeps, -⟩ := ht.holds hold
    exact ⟨new, hnew, hkeeps hnodup⟩

/-- **A group only grows** (`CreateController`). A group is made, and then invocations run one after
the other with it as their active group, whatever they are asked for and however they end. After
each of them the list of the group begins with the list that it had before, and lists nothing twice.
If the invocation has begun to create, and keeps what there is or none of its tasks has failed, then
what it has recorded comes behind the old list, in the order of recording and without repeats; in
all other cases the list is the old one. Whatever other groups there are, they are as they were, and
so is all else but the one file. -/
theorem group_only_grows (hmade : (Files.create dir name).run before = (.ok g, start))
    (h : Turns dir name start files) (ht : Turn dir name v last files files') :
    ∃ old new,
      (Files.load dir name).run files = (.ok ⟨name, old⟩, files) ∧
      (Files.load dir name).run files' = (.ok ⟨name, new⟩, files') ∧
      old <+: new ∧ new.Nodup ∧
      (∀ s, last = some s → s.Due v.options.policy →
        new = old ++ Group.additions ⟨name, old⟩ s.recorded) ∧
      ((∀ s, last = some s → ¬s.Due v.options.policy) → new = old) ∧
      (∀ other, other ≠ name →
        ((Files.load dir other).run files').1 = ((Files.load dir other).run files).1) ∧
      ∃ l, files.locate (Files.pathOf dir name) = .ok l ∧
        ∀ l', l' ≠ l → files'.node? l' = files.node? l' := by
  obtain ⟨rfl, -, hempty, -⟩ := Files.create_run_eq_ok hmade
  obtain ⟨old, hold, hnodup⟩ := h.holds hempty
  obtain ⟨new, hnew, hfront, hkeeps, hdue, hnot⟩ := ht.holds hold
  obtain ⟨hothers, hnodes⟩ := Turn.others (g := ⟨name, old⟩) ht hold
  exact ⟨old, new, Files.load_run_eq_ok_iff.2 hold, Files.load_run_eq_ok_iff.2 hnew, hfront,
    hkeeps hnodup, hdue, hnot, hothers, hnodes⟩

/-- Three instances for the active group `fleet`; what there is is kept. -/
def threeForFleet : Invocation :=
  ⟨{ builderType := "linux", count := 3 }, .loaded "fleet", "/groups", .ok "/out"⟩

/-- Two instances are created, of which one was created before, and the third request fails. -/
def thirdRefused : List Action :=
  [.file, .file, .creation (.task 0 .call), .creation (.task 0 (.replied (.ok ()) .zero)),
    .creation (.task 0 (.item (.ok (.complete ⟨"c"⟩)) .zero)), .creation .record,
    .creation (.task 1 .call), .creation (.task 1 (.replied (.ok ()) .zero)),
    .creation (.task 1 (.item (.ok (.complete ⟨"b"⟩)) .zero)), .creation (.task 2 .call),
    .creation (.task 2 (.replied (.ok ()) .zero)), .creation (.task 2 .streamEnded),
    .creation (.task 2 .raise), .creation (.join 0), .creation (.join 2), .creation .record,
    .creation (.join 1), .creation .drain, .file, .file, .file, .file, .creation .finish]

theorem thirdRefused_grows :
    let files (list : List String) : FileSystem :=
      (FileSystem.empty.put ["groups"] .directory).put ["groups", "fleet.json"]
        (.file (Group.document ⟨"fleet", list⟩))
    (Files.create "/groups" "fleet").run .empty = (.ok ⟨"fleet", []⟩, files []) ∧
      (∃ last, Turn "/groups" "fleet" oneForFleet last (files []) (files ["b"])) ∧
      ∃ last, Turn "/groups" "fleet" threeForFleet last (files ["b"]) (files ["b", "c"]) ∧
        (Files.load "/groups" "fleet").run (files ["b", "c"]) =
          (.ok ⟨"fleet", ["b"] ++ Group.additions ⟨"fleet", ["b"]⟩ [⟨"c"⟩, ⟨"b"⟩]⟩,
            files ["b", "c"]) := by
  intro files
  have hmade : (Files.create "/groups" "fleet").run .empty = (.ok ⟨"fleet", []⟩, files []) := rfl
  have hfirst : ∃ last, Turn "/groups" "fleet" oneForFleet last (files []) (files ["b"]) :=
    ⟨_, rfl, rfl, oneCreated "b", _, rfl⟩
  have hsecond : ∃ s, Turn "/groups" "fleet" threeForFleet (some s) (files ["b"])
      (files ["b", "c"]) ∧ s.recorded = [⟨"c"⟩, ⟨"b"⟩] :=
    ⟨_, ⟨rfl, rfl, thirdRefused, _, rfl⟩, rfl⟩
  obtain ⟨one, hone⟩ := hfirst
  obtain ⟨s, hthree, hrecorded⟩ := hsecond
  obtain ⟨old, new, hold, hnew, -, -, hdue, -⟩ := group_only_grows hmade (.next .none hone) hthree
  have hbefore : (Files.load "/groups" "fleet").run (files ["b"]) =
      (.ok ⟨"fleet", ["b"]⟩, files ["b"]) := rfl
  obtain rfl : old = ["b"] := by
    cases hold.symm.trans hbefore
    rfl
  obtain rfl := hdue s rfl (.inl rfl)
  rw [hrecorded] at hnew
  exact ⟨hmade, ⟨one, hone⟩, some s, hthree, hnew⟩

end BuildFleet.Invocation
