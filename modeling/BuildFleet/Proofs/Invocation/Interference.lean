import BuildFleet.Proofs.GroupStore.Files
import BuildFleet.Proofs.Invocation.Moves
/-!
# An invocation whose files others use

What an invocation can count on while others work on the group files: if all keep to something
(`Discipline`), the group that it found satisfies what loading or creating promises, and so does the
group at every later stage, up to the one that it returns (`Stage.Sound.after_move`). A stage tells
which group the invocation has stored (`Stage.kept`), and that only changes with the file
(`kept_after_move`).
-/
namespace BuildFleet.Invocation

open Creation (Context Outcome)
open Creation.State (Reached)
open GroupStore

/-! ## Finding a group -/

/-- The invocation finds a group that satisfies `good`, and it keeps to `inv` if the others do; storing a
good group keeps to it as well, and a good group stays good when instances are added. -/
structure Discipline (v : Invocation) (inv : FileSystem → Prop) (good : Group → Prop) : Prop where
  finds : ∀ fs, (v.choice.fromFiles v.groupDir).Keeps inv
    (fun result _ => ∀ found, result = .ok found → ∃ g, found = some g ∧ good g) fs
  stores : ∀ g, good g → ∀ fs, (Files.store v.groupDir g).Keeps inv
    (fun result fs => result = .ok () → Files.Holds fs v.groupDir g.name g) fs
  inserts : ∀ g id, good g → good (g.insert id)

section
variable {v : Invocation} {name : String} {inv : FileSystem → Prop} {good : Group → Prop}

theorem keeps_map_some {program : FileProgram (Except GroupStore.Error Group)} {fs : FileSystem}
    (h : program.Keeps inv (fun result _ => ∀ g, result = .ok g → good g) fs) :
    (program.bind fun r => .done (r.map some)).Keeps inv
      (fun result _ => ∀ found, result = .ok found → ∃ g, found = some g ∧ good g) fs := by
  refine h.bind fun result fs hgood found he => ?_
  cases result with
  | error e => cases he
  | ok g => exact ⟨g, (Except.ok.inj he).symm, hgood g rfl⟩

theorem discipline_of_loaded (hchoice : v.choice = .loaded name)
    (hheld : ∀ fs, inv fs → ∀ g, Files.Holds fs v.groupDir name g → good g)
    (hdirs : ∀ fs path, inv fs → inv (fs.makeDirs path).2)
    (hwrite : ∀ fs g, good g → Files.Holds fs v.groupDir g.name g → inv fs)
    (hinsert : ∀ g id, good g → good (g.insert id)) : Discipline v inv good where
  finds fs := by
    rw [hchoice]
    exact keeps_map_some (Files.load_keeps hheld fs)
  stores g hg fs := Files.store_keeps hdirs (fun fs => hwrite fs g hg) fs
  inserts := hinsert

/-- An active group of which there is no file is not found, as long as nobody writes. -/
theorem discipline_of_missing {start : FileSystem} (hchoice : v.choice = .loaded name)
    (hmissing : ∀ g, ¬Files.Holds start v.groupDir name g) :
    Discipline v (· = start) (fun _ => False) where
  finds fs := by
    rw [hchoice]
    refine keeps_map_some (Files.load_keeps ?_ fs)
    rintro fs rfl g hg
    exact hmissing g hg
  stores _ hg := hg.elim
  inserts _ _ hg := hg

theorem discipline_of_created (hchoice : v.choice = .created name) :
    Discipline v (fun _ => True) (fun g => g.name = name) where
  finds fs := by
    rw [hchoice]
    refine (Files.create_keeps fs).bind fun result fs hempty found he => ?_
    cases result with
    | error e => cases he
    | ok g => exact ⟨g, (Except.ok.inj he).symm, by rw [hempty g rfl]⟩
  stores g _ fs := Files.store_keeps (fun _ _ _ => trivial) (fun _ _ => trivial) fs
  inserts g id hg := by rw [Group.insert_name, hg]

end

/-! ## Stages -/

/-- What is true of a stage while all keep to `inv`. -/
def Stage.Sound (dir : String) (inv : FileSystem → Prop) (good : Group → Prop) : Stage → Prop
  | .resolving program => ∃ fs, program.Keeps inv
      (fun result _ => ∀ found, result = .ok found → ∃ g, found = some g ∧ good g) fs
  | .creating context s => (∃ group, Reached context group s) ∧ ∃ g, s.group = some g ∧ good g
  | .saving context s program => (∃ group, Reached context group s) ∧
      ∃ g, s.toStore context = some g ∧ good g ∧
        ∃ fs, program.Keeps inv (fun result fs => result = .ok () → Files.Holds fs dir g.name g) fs
  | .returned result _ => ∀ outcome, result = .ok outcome →
      ∃ g, outcome.group = some g ∧ good g ∧ ∀ id ∈ outcome.instances, id.text ∈ g.instances

/-- The group that an invocation has stored, unless it fails. -/
def Stage.kept : Stage → Option Group
  | .saving context s (.done (.ok ())) => s.toStore context
  | .creating context s =>
    match s.closing with
    | .stored (.ok ()) => s.toStore context
    | _ => none
  | .returned (.ok outcome) _ => outcome.group
  | _ => none

variable {v : Invocation} {inv : FileSystem → Prop} {good : Group → Prop} {stage stage' : Stage}
  {files files' : FileSystem} {a : Action} {context : Context} {group : Option Group}
  {s s' : Creation.State} {g : Group}

theorem Stage.Sound.start (hd : Discipline v inv good) (dir : String) (files : FileSystem) :
    v.start.Sound dir inv good := ⟨files, hd.finds files⟩

theorem good_of_move (hd : Discipline v inv good) {a : Creation.Action}
    (hm : Creation.State.Moves context s a s') (hg : ∃ g, s.group = some g ∧ good g) :
    ∃ g, s'.group = some g ∧ good g := by
  cases hm with
  | task => simpa using hg
  | record =>
    obtain ⟨g, hg, hgood⟩ := hg
    exact ⟨_, by rw [hg]; rfl, hd.inserts g _ hgood⟩
  | _ => exact hg

theorem Stage.Sound.ofState (hs : ∃ group, Reached context group s)
    (hg : ∃ g, s.group = some g ∧ good g) : (Stage.ofState context s).Sound v.groupDir inv good := by
  unfold Stage.ofState
  split
  · rename_i result hc
    obtain ⟨group, hreached⟩ := hs
    obtain ⟨g, hg, hgood⟩ := hg
    intro outcome he
    obtain ⟨actions, h⟩ := hreached
    obtain ⟨answer, rfl⟩ := Creation.State.result_of_returned h hc
    obtain ⟨-, -, rfl⟩ := Creation.State.result_eq_ok_iff.1 (mapError_eq_ok_iff.1 he)
    refine ⟨g, hg, hgood, fun id hid => ?_⟩
    rw [Creation.State.group_eq h] at hg
    obtain ⟨g₀, -, rfl⟩ := Option.map_eq_some_iff.1 hg
    exact Group.mem_insertAll.2 (.inr ⟨id, hid, rfl⟩)
  · exact ⟨hs, hg⟩

/-- Every step of an invocation keeps to what all keep to, and leads to a stage that is as it should
be. -/
theorem Stage.Sound.after_move (hd : Discipline v inv good) (h : stage.Sound v.groupDir inv good)
    (hi : inv files) (hm : Moves v stage files a stage' files') :
    inv files' ∧ stage'.Sound v.groupDir inv good := by
  cases hm with
  | look hp =>
    obtain ⟨fs, hkeeps⟩ := h
    obtain ⟨hi, hkeeps⟩ := hkeeps.step hp hi
    exact ⟨hi, _, hkeeps⟩
  | found =>
    rename_i found
    obtain ⟨fs, hfound⟩ := h
    refine ⟨hi, ?_⟩
    unfold Invocation.begin
    split
    · intro outcome he
      cases he
    · split
      · intro outcome he
        cases he
      · exact ⟨⟨_, .initial⟩, hfound _ rfl⟩
  | creation _ hm =>
    obtain ⟨⟨group, hs⟩, hg⟩ := h
    exact ⟨hi, Stage.Sound.ofState ⟨group, hs.after_move hm⟩ (good_of_move hd hm hg)⟩
  | save _ hstore _ =>
    obtain ⟨hs, g, hg, hgood⟩ := h
    obtain rfl := Option.some.inj (hg.symm.trans (Creation.State.group_of_toStore hstore))
    exact ⟨hi, hs, g, hstore, hgood, _, hd.stores g hgood files⟩
  | write hp =>
    obtain ⟨hs, g, hstore, hgood, fs, hkeeps⟩ := h
    obtain ⟨hi, hkeeps⟩ := hkeeps.step hp hi
    exact ⟨hi, hs, g, hstore, hgood, _, hkeeps⟩
  | saved hm =>
    obtain ⟨⟨group, hs⟩, g, hstore, hgood, -⟩ := h
    have hg : ∃ g, _ = some g ∧ good g := ⟨g, Creation.State.group_of_toStore hstore, hgood⟩
    exact ⟨hi, Stage.Sound.ofState ⟨group, hs.after_move hm⟩ (good_of_move hd hm hg)⟩

/-! ## What was stored -/

theorem kept_creating_eq_some_iff : (Stage.creating context s).kept = some g ↔
    s.closing = .stored (.ok ()) ∧ s.toStore context = some g := by
  rcases hc : s.closing with _ | (e | ⟨⟨⟩⟩) | _ <;> simp [Stage.kept, hc]

theorem kept_saving_eq_some_iff {program : FileProgram (Except GroupStore.Error Unit)} :
    (Stage.saving context s program).kept = some g ↔
      program = .done (.ok ()) ∧ s.toStore context = some g := by
  rcases program with (e | ⟨⟨⟩⟩) | _ | _ | _ | _ <;> simp [Stage.kept]

theorem Stage.Sound.of_kept {dir : String} (h : stage.Sound dir inv good) (hk : stage.kept = some g) :
    good g ∧ ∀ (inv' : FileSystem → Prop) (good' : Group → Prop), good' g →
      stage.Sound dir inv' good' := by
  cases stage with
  | resolving => cases hk
  | creating context s =>
    obtain ⟨hs, g₀, hgroup, hgood⟩ := h
    have hg := Creation.State.group_of_toStore (kept_creating_eq_some_iff.1 hk).2
    obtain rfl : g₀ = g := Option.some.inj (hgroup.symm.trans hg)
    exact ⟨hgood, fun _ _ hg' => ⟨hs, g₀, hgroup, hg'⟩⟩
  | saving context s program =>
    obtain ⟨rfl, hg⟩ := kept_saving_eq_some_iff.1 hk
    obtain ⟨hs, g₀, hstore, hgood, hkeeps⟩ := h
    obtain rfl : g₀ = g := Option.some.inj (hstore.symm.trans hg)
    exact ⟨hgood, fun _ _ hg' => ⟨hs, g₀, hstore, hg', hkeeps⟩⟩
  | returned result last =>
    cases result with
    | error => cases hk
    | ok outcome =>
      obtain ⟨g₀, hgroup, hgood, hids⟩ := h outcome rfl
      obtain rfl : g₀ = g := Option.some.inj (hgroup.symm.trans hk)
      refine ⟨hgood, fun _ _ hg' outcome' he => ?_⟩
      cases he
      exact ⟨g₀, hgroup, hg', hids⟩

/-- A move of the creation other than storing changes nothing in what is stored, unless the invocation
fails. -/
theorem kept_after_creation {a : Creation.Action} (hs : Reached context group s)
    (hg : s.group = some g) (ha : ∀ result, a ≠ .store result)
    (hm : Creation.State.Moves context s a s') :
    (Stage.ofState context s').kept = (Stage.creating context s).kept ∨
      ∃ e last, Stage.ofState context s' = .returned (.error e) last := by
  by_cases hc : s.closing = .running
  · rcases hm.closing_of_running hc ha with hc' | ⟨hnone, rfl⟩
    · exact .inl (by simp [Stage.ofState, Stage.kept, hc, hc'])
    · -- The creation has a group, so that it cannot succeed without storing it.
      cases hr : s.result (.ok ()) with
      | error e => exact .inr ⟨_, _, rfl⟩
      | ok outcome =>
        obtain ⟨hfirst, -, -⟩ := Creation.State.result_eq_ok_iff.1 hr
        rw [Creation.State.toStore_of_firstError hfirst, hg] at hnone
        cases hnone
  · obtain ⟨answer, hanswer, rfl⟩ := hs.finish_of_move hc hm
    cases hr : s.result answer with
    | error e => exact .inr ⟨_, _, rfl⟩
    | ok outcome =>
      obtain ⟨hfirst, rfl, rfl⟩ := Creation.State.result_eq_ok_iff.1 hr
      have hkept : (Stage.creating context s).kept = s.toStore context := by
        simp [Stage.kept, hanswer]
      rw [hkept, Creation.State.toStore_of_firstError hfirst]
      exact .inl (by simp [Stage.ofState, Stage.kept, Except.mapError])

/-- What a move does to what is stored: nothing, and the files of an invocation that has stored its group
stay as they are; or the invocation fails; or its group gets stored, and is in its file then. -/
theorem kept_after_move (h : stage.Sound v.groupDir inv good) (hi : inv files)
    (hm : Moves v stage files a stage' files') :
    (stage'.kept = stage.kept ∧ (stage.kept ≠ none → files' = files)) ∨
      (∃ e last, stage' = .returned (.error e) last) ∨
      (stage.kept = none ∧ ∃ g, stage'.kept = some g ∧ Files.Holds files' v.groupDir g.name g) := by
  cases hm with
  | look => exact .inl ⟨rfl, fun hk => absurd rfl hk⟩
  | found =>
    unfold Invocation.begin
    split
    · exact .inr (.inl ⟨_, _, rfl⟩)
    · split
      · exact .inr (.inl ⟨_, _, rfl⟩)
      · exact .inl ⟨rfl, fun _ => rfl⟩
  | creation ha hm =>
    obtain ⟨⟨group, hs⟩, g, hg, -⟩ := h
    rcases kept_after_creation hs hg ha hm with hsame | hfailed
    · exact .inl ⟨hsame, fun _ => rfl⟩
    · exact .inr (.inl hfailed)
  | save hr =>
    rename_i context s g _ _
    have hkept : (Stage.saving context s (Files.store v.groupDir g)).kept = none := by
      unfold Files.store
      split <;> rfl
    exact .inl ⟨by rw [hkept]; simp [Stage.kept, hr], fun _ => rfl⟩
  | write hp =>
    rename_i context s program
    obtain ⟨-, g, hstore, -, fs, hkeeps⟩ := h
    have hnone : (Stage.saving context s program).kept = none :=
      Option.eq_none_iff_forall_ne_some.2 fun _ hk => hp _ (kept_saving_eq_some_iff.1 hk).1
    -- The group counts as stored from the last step of the program on, which has written it.
    cases hk : (Stage.saving context s (program.step files).1).kept with
    | none => exact .inl ⟨hnone.symm, fun hk => absurd hnone hk⟩
    | some g' =>
      obtain ⟨hdone, hg⟩ := kept_saving_eq_some_iff.1 hk
      obtain rfl : g = g' := Option.some.inj (hstore.symm.trans hg)
      obtain ⟨-, hkeeps⟩ := hkeeps.step hp hi
      rw [hdone] at hkeeps
      exact .inr (.inr ⟨hnone, g, rfl, hkeeps rfl⟩)
  | saved hm =>
    rename_i context s result _
    cases hm with
    | store => exact .inl ⟨by rcases result with e | ⟨⟨⟩⟩ <;> rfl, fun _ => rfl⟩

end BuildFleet.Invocation
