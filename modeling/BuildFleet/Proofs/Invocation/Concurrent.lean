import BuildFleet.Invocation.Pair
import BuildFleet.Proofs.Invocation.ActiveGroup
import BuildFleet.Proofs.Invocation.Interference
/-!
# Two invocations on one group (`CreateController`)

Nothing keeps two invocations apart: each reads the group before its creation, and writes all of it
afterwards. So what is stored in the end is the group of the one that stored last, with all that it has
created itself (`last_stored_remains`). What the other has created is in it if the last one looked for
the group only when the other had stored it, and may be lost if not (`later_store_loses_instance`).
-/
namespace BuildFleet.Invocation

open Creation (Outcome)
open GroupStore

/-! ## Sides -/

namespace Side

def other : Side → Side
  | first => second
  | second => first

def of {α : Type} (first second : α) : Side → α
  | .first => first
  | .second => second

theorem eq_or_eq_other (side side' : Side) : side' = side ∨ side' = side.other := by
  cases side <;> cases side' <;> simp [other]

theorem forall_of {α : Type} {P : α → Prop} {first second : α} (hfirst : P first)
    (hsecond : P second) (side : Side) : P (Side.of first second side) := by
  cases side
  · exact hfirst
  · exact hsecond

@[simp] theorem other_other (side : Side) : side.other.other = side := by cases side <;> rfl

end Side

namespace Pair

variable {v w : Invocation} {p q r : Pair} {moves : List (Side × Action)} {side : Side} {a : Action}
  {files : FileSystem}

def stage (p : Pair) : Side → Stage := Side.of p.first p.second

theorem start_stage (side : Side) : (Pair.start v w files).stage side = (Side.of v w side).start := by
  cases side <;> rfl

/-- One of the two makes a move of its own, and the other stands still. -/
theorem moves_of_step (h : p.step v w a side = some q) :
    Moves (Side.of v w side) (p.stage side) p.files a (q.stage side) q.files ∧
      q.stage side.other = p.stage side.other := by
  cases side
  all_goals
    obtain ⟨⟨stage, files⟩, hstep, rfl⟩ := Option.map_eq_some_iff.1 h
    exact ⟨Invocation.moves_of_step hstep, rfl⟩

theorem run_append (v w : Invocation) (p : Pair) (before after : List (Side × Action)) :
    p.run v w (before ++ after) = (p.run v w before).bind fun q => q.run v w after := by
  induction before generalizing p with
  | nil => rfl
  | cons m before ih => simp [run, ih, Option.bind_assoc]

/-- What holds at the start and is kept by every step holds after a run. The moves so far are at
hand. -/
theorem run_history {P : List (Side × Action) → Pair → Prop} (start : P [] p)
    (keeps : ∀ moves q side a r, p.run v w moves = some q → P moves q → q.step v w a side = some r →
      P (moves ++ [(side, a)]) r)
    (h : p.run v w moves = some q) : P moves q := by
  induction moves using List.reverseRecOn generalizing q with
  | nil => exact Option.some.inj h ▸ start
  | append_singleton moves m ih =>
    rw [run_append] at h
    obtain ⟨r, hr, h⟩ := Option.bind_eq_some_iff.1 h
    obtain ⟨q', hstep, h⟩ := Option.bind_eq_some_iff.1 h
    cases h
    exact keeps moves r m.1 m.2 q hr (ih hr) hstep

/-! ## What both keep to -/

/-- Both invocations work in the directory and keep to `inv`. -/
structure Agreed (v w : Invocation) (dir : String) (inv : FileSystem → Prop) (good : Group → Prop) :
    Prop where
  dir : ∀ side, (Side.of v w side).groupDir = dir
  discipline : ∀ side, Discipline (Side.of v w side) inv good

/-- The files and both stages are as they should be. -/
structure Sound (p : Pair) (dir : String) (inv : FileSystem → Prop) (good : Group → Prop) : Prop where
  files : inv p.files
  stages : ∀ side, (p.stage side).Sound dir inv good

variable {dir : String} {inv : FileSystem → Prop} {good : Group → Prop}

theorem Sound.start (hv : Agreed v w dir inv good) (hi : inv files) :
    (Pair.start v w files).Sound dir inv good where
  files := hi
  stages side := by
    rw [start_stage]
    exact Stage.Sound.start (hv.discipline side) dir files

theorem Sound.after_step (hv : Agreed v w dir inv good) (h : p.Sound dir inv good)
    (hstep : p.step v w a side = some q) : q.Sound dir inv good := by
  obtain ⟨hm, hother⟩ := moves_of_step hstep
  have hstage := h.stages side
  rw [← hv.dir side] at hstage
  obtain ⟨hi, hsound⟩ := hstage.after_move (hv.discipline side) h.files hm
  refine ⟨hi, fun side' => ?_⟩
  rcases side.eq_or_eq_other side' with rfl | rfl
  · rwa [← hv.dir side']
  · rw [hother]
    exact h.stages _

theorem Sound.after_run (hv : Agreed v w dir inv good) (h : p.Sound dir inv good)
    (hrun : p.run v w moves = some q) : q.Sound dir inv good :=
  run_history (P := fun _ q => q.Sound dir inv good) h
    (fun _ _ _ _ _ _ h hstep => h.after_step hv hstep) hrun

/-- A side that has something stored after a step had it before, and the files are the same; or it is
the step that stored it. -/
theorem kept_of_step (hv : Agreed v w dir inv good) (h : p.Sound dir inv good)
    (hstep : p.step v w a side = some q) {g : Group} (hk : (q.stage side).kept = some g) :
    ((p.stage side).kept = some g ∧ q.files = p.files) ∨
      ((p.stage side).kept = none ∧ Files.Holds q.files dir g.name g) := by
  have hstage := h.stages side
  rw [← hv.dir side] at hstage ⊢
  rcases kept_after_move hstage h.files (moves_of_step hstep).1 with
    ⟨hsame, hfiles⟩ | ⟨e, last, hfailed⟩ | ⟨hnone, g', hk', hheld⟩
  · rw [hsame] at hk
    exact .inl ⟨hk, hfiles (by simp [hk])⟩
  · rw [hfailed] at hk
    cases hk
  · obtain rfl : g' = g := Option.some.inj (hk'.symm.trans hk)
    exact .inr ⟨hnone, hheld⟩

/-- The side had not stored yet when the other had. -/
def StoresLater (v w : Invocation) (files : FileSystem) (moves : List (Side × Action)) (side : Side) :
    Prop :=
  ∃ before after q, moves = before ++ after ∧ (Pair.start v w files).run v w before = some q ∧
    (∃ g, (q.stage side.other).kept = some g) ∧ (q.stage side).kept = none

/-- When both have stored, the files hold what the later of them has. -/
theorem exists_last (hv : Agreed v w dir inv good) (hi : inv files)
    (hrun : (Pair.start v w files).run v w moves = some p) (kept : Side → Group)
    (hk : ∀ side, (p.stage side).kept = some (kept side)) :
    ∃ side, StoresLater v w files moves side ∧
      Files.Holds p.files dir (kept side).name (kept side) := by
  refine run_history (P := fun moves p => ∀ kept : Side → Group,
    (∀ side, (p.stage side).kept = some (kept side)) → ∃ side, StoresLater v w files moves side ∧
      Files.Holds p.files dir (kept side).name (kept side)) ?_ ?_ hrun kept hk
  · intro kept hk
    have hnone := hk .first
    rw [start_stage] at hnone
    cases hnone
  · intro moves q side a r hrun ih hstep kept hk
    have hsound := (Sound.start hv hi).after_run hv hrun
    have hkept := hk side.other
    rw [(moves_of_step hstep).2] at hkept
    rcases kept_of_step hv hsound hstep (hk side) with ⟨hbefore, hfiles⟩ | ⟨hnone, hheld⟩
    · have hall : ∀ side', (q.stage side').kept = some (kept side') := by
        intro side'
        rcases side.eq_or_eq_other side' with rfl | rfl
        · exact hbefore
        · exact hkept
      obtain ⟨last, ⟨before, after, q', rfl, hq'⟩, hheld⟩ := ih kept hall
      exact ⟨last, ⟨before, after ++ [(side, a)], q', by simp, hq'⟩, hfiles ▸ hheld⟩
    · exact ⟨side, ⟨moves, [(side, a)], q, rfl, hrun, ⟨_, hkept⟩, hnone⟩, hheld⟩

/-! ## One after the other -/

/-- As long as one side alone has moved, the other is at its start, and what the first has stored is in
the files. -/
theorem holds_of_alone (hv : Agreed v w dir inv good) (hi : inv files)
    (halone : ∀ m ∈ moves, m.1 = side.other)
    (hrun : (Pair.start v w files).run v w moves = some q) :
    q.stage side = (Side.of v w side).start ∧
      ∀ g, (q.stage side.other).kept = some g → Files.Holds q.files dir g.name g := by
  refine run_history (P := fun moves q => (∀ m ∈ moves, m.1 = side.other) →
    q.stage side = (Side.of v w side).start ∧
      ∀ g, (q.stage side.other).kept = some g → Files.Holds q.files dir g.name g) ?_ ?_ hrun halone
  · intro _
    refine ⟨start_stage side, fun g hk => ?_⟩
    rw [start_stage] at hk
    cases hk
  · intro moves q mover a r hrun ih hstep halone
    obtain rfl : mover = side.other := halone (mover, a) (by simp)
    obtain ⟨hstart, hheld⟩ := ih fun m hm => halone m (by simp [hm])
    have hsound := (Sound.start hv hi).after_run hv hrun
    have hstill := (moves_of_step hstep).2
    rw [Side.other_other] at hstill
    refine ⟨hstill.trans hstart, fun g hk => ?_⟩
    rcases kept_of_step hv hsound hstep hk with ⟨hbefore, hfiles⟩ | ⟨-, hstored⟩
    · exact hfiles ▸ hheld g hbefore
    · exact hstored

/-- What a side has stored is what it returns, if it returns success. -/
theorem group_of_kept (hv : Agreed v w dir inv good) (h : q.Sound dir inv good)
    (hrun : q.run v w moves = some p) {g : Group} (hk : (q.stage side).kept = some g)
    {outcome : Outcome} {last : Option Creation.State}
    (hr : p.stage side = .returned (.ok outcome) last) : outcome.group = some g := by
  have hkept : (p.stage side).kept = some g ∨ ∃ e last, p.stage side = .returned (.error e) last := by
    refine run_history (P := fun _ p =>
      (p.stage side).kept = some g ∨ ∃ e last, p.stage side = .returned (.error e) last)
      (.inl hk) ?_ hrun
    intro moves r mover a r' hrun ih hstep
    obtain ⟨hm, hstill⟩ := moves_of_step hstep
    rcases mover.eq_or_eq_other side with rfl | rfl
    · rcases ih with hk | ⟨e, last, hr⟩
      · have hsound := h.after_run hv hrun
        have hstage := hsound.stages side
        rw [← hv.dir side] at hstage
        rcases kept_after_move hstage hsound.files hm with ⟨hsame, -⟩ | hfailed | ⟨hnone, -⟩
        · exact .inl (hsame.trans hk)
        · exact .inr hfailed
        · rw [hk] at hnone
          cases hnone
      · rw [hr] at hm
        cases hm
    · rwa [hstill]
  rw [hr] at hkept
  rcases hkept with hk | ⟨e, last, he⟩
  · exact hk
  · cases he

/-- With an active group whose file holds a group of that name, it suffices to keep to what is true of
that group. -/
theorem agreed_of_loaded {name : String} (hdir : ∀ side, (Side.of v w side).groupDir = dir)
    (hchoice : ∀ side, (Side.of v w side).choice = .loaded name) (hname : ∀ g, good g → g.name = name)
    (hinsert : ∀ g id, good g → good (g.insert id)) :
    Agreed v w dir (fun fs => ∃ g, Files.Holds fs dir name g ∧ good g) good where
  dir := hdir
  discipline side := by
    refine discipline_of_loaded (hchoice side) ?_ ?_ ?_ hinsert
    · rintro fs ⟨g', hheld, hgood⟩ g hg
      rw [hdir side] at hg
      exact hg.unique hheld ▸ hgood
    · rintro fs path ⟨g, hheld, hgood⟩
      exact ⟨g, hheld.makeDirs path, hgood⟩
    · intro fs g hgood hheld
      rw [hdir side, hname g hgood] at hheld
      exact ⟨g, hheld, hgood⟩

/-- A side that begins when the other has stored adds to what the other has stored. -/
theorem lists_of_later {name : String} (hdir : ∀ side, (Side.of v w side).groupDir = dir)
    (hchoice : ∀ side, (Side.of v w side).choice = .loaded name) (hv : Agreed v w dir inv good)
    (hi : inv files) (hname : ∀ g, good g → g.name = name) {before after : List (Side × Action)}
    (halone : ∀ m ∈ before, m.1 = side.other)
    (hbefore : (Pair.start v w files).run v w before = some q) (hafter : q.run v w after = some p)
    {g : Group} (hk : (q.stage side.other).kept = some g) {outcome : Side → Outcome}
    {last : Side → Option Creation.State}
    (hr : ∀ side, p.stage side = .returned (.ok (outcome side)) (last side)) :
    ∃ g', (outcome side).group = some g' ∧
      ∀ id ∈ (outcome side.other).instances, id.text ∈ g'.instances := by
  have hq := (Sound.start hv hi).after_run hv hbefore
  obtain ⟨hstart, hheld⟩ := holds_of_alone hv hi halone hbefore
  -- From here on the group lists all that was stored, and stays the same group in all else.
  let good' (g' : Group) : Prop := g'.name = name ∧ ∀ text ∈ g.instances, text ∈ g'.instances
  have hv' : Agreed v w dir (fun fs => ∃ g, Files.Holds fs dir name g ∧ good' g) good' := by
    refine agreed_of_loaded hdir hchoice (fun g' hg' => hg'.1) fun g' id hg' => ?_
    refine ⟨(Group.insert_name g' id).trans hg'.1, fun text ht => ?_⟩
    exact Group.mem_insert_of_mem (hg'.2 text ht)
  have hgood : good' g := ⟨hname g ((hq.stages _).of_kept hk).1, fun _ ht => ht⟩
  have hq' : q.Sound dir (fun fs => ∃ g, Files.Holds fs dir name g ∧ good' g) good' := by
    refine ⟨⟨g, hgood.1 ▸ hheld g hk, hgood⟩, fun side' => ?_⟩
    rcases side.eq_or_eq_other side' with rfl | rfl
    · rw [hstart]
      exact Stage.Sound.start (hv'.discipline side') dir files
    · exact ((hq.stages _).of_kept hk).2 _ _ hgood
  have hp := hq'.after_run hv' hafter
  have hside := hp.stages side
  rw [hr side] at hside
  obtain ⟨g', hgroup, hg', -⟩ := hside _ rfl
  have hother := hp.stages side.other
  rw [hr side.other] at hother
  obtain ⟨g₀, hgroup₀, -, hids⟩ := hother _ rfl
  obtain rfl : g₀ = g :=
    Option.some.inj (hgroup₀.symm.trans (group_of_kept hv hq hafter hk (hr side.other)))
  exact ⟨g', hgroup, fun id hid => hg'.2 _ (hids id hid)⟩

/-! ## Together -/

/-- Whether there is a file for the group or not, there is something to keep to. -/
theorem exists_agreed (name : String) (files : FileSystem)
    (hdir : ∀ side, (Side.of v w side).groupDir = dir)
    (hname : ((∀ side, (Side.of v w side).choice = .loaded name) ∧
        ∀ g, Files.Holds files dir name g → g.name = name) ∨
      ∀ side, (Side.of v w side).choice = .created name) :
    ∃ inv good, Agreed v w dir inv good ∧ inv files ∧ ∀ g, good g → g.name = name := by
  rcases hname with ⟨hchoice, hname⟩ | hchoice
  · by_cases hheld : ∃ g, Files.Holds files dir name g
    · obtain ⟨g, hheld⟩ := hheld
      exact ⟨_, (·.name = name),
        agreed_of_loaded hdir hchoice (fun _ hg => hg) fun g id hg => by rw [Group.insert_name, hg],
        ⟨g, hheld, hname g hheld⟩, fun _ hg => hg⟩
    · refine ⟨(· = files), fun _ => False, ⟨hdir, fun side => ?_⟩, rfl, fun _ hg => hg.elim⟩
      refine discipline_of_missing (hchoice side) fun g hg => hheld ⟨g, ?_⟩
      rwa [hdir side] at hg
  · exact ⟨_, _, ⟨hdir, fun side => discipline_of_created (hchoice side)⟩, trivial, fun _ hg => hg⟩

/-- **The later of two invocations has the last word** (`FileGroupStore`). Two invocations work in
one directory, on one active group, whose file holds a group of that name if it holds one, or on one
new group; whatever the order of their file operations and of the steps of their creations, if both
return success, then the group that is stored in the end is the one that was returned by the
invocation that stored later. It lists all that this one has created. If the group was active, and
that invocation had not taken a step before the other had stored, it lists all that the other has
created as well. -/
theorem last_stored_remains {name : String} (hdirv : v.groupDir = dir) (hdirw : w.groupDir = dir)
    (hname : (v.choice = .loaded name ∧ w.choice = .loaded name ∧
        ∀ g, (Files.load dir name).run files = (.ok g, files) → g.name = name) ∨
      (v.choice = .created name ∧ w.choice = .created name))
    (hrun : (Pair.start v w files).run v w moves = some p) {outcome : Side → Outcome}
    {last : Side → Option Creation.State}
    (hr : ∀ side, p.stage side = .returned (.ok (outcome side)) (last side)) :
    ∃ side g, StoresLater v w files moves side ∧ (outcome side).group = some g ∧
      (Files.load dir name).run p.files = (.ok g, p.files) ∧
      (∀ id ∈ (outcome side).instances, id.text ∈ g.instances) ∧
      (v.choice = .loaded name → ∀ before after q, moves = before ++ after →
        (∀ m ∈ before, m.1 = side.other) → (Pair.start v w files).run v w before = some q →
        (∃ g, (q.stage side.other).kept = some g) →
        ∀ id ∈ (outcome side.other).instances, id.text ∈ g.instances) := by
  have hdir := Side.forall_of (P := fun u : Invocation => u.groupDir = dir) hdirv hdirw
  have hchoice : ∀ choice, v.choice = choice → w.choice = choice →
      ∀ side, (Side.of v w side).choice = choice :=
    fun choice => Side.forall_of (P := fun u : Invocation => u.choice = choice)
  -- The files keep to `inv` at any time, and both sides store groups that are `good` only.
  obtain ⟨inv, good, hv, hi, hgood⟩ := exists_agreed name files hdir <| hname.imp
    (fun ⟨hcv, hcw, hname⟩ =>
      ⟨hchoice _ hcv hcw, fun g hg => hname g (Files.load_run_eq_ok_iff.2 hg)⟩)
    fun ⟨hcv, hcw⟩ => hchoice _ hcv hcw
  have hp := (Sound.start hv hi).after_run hv hrun
  have hreturned : ∀ side, ∃ g, (outcome side).group = some g ∧ good g ∧
      ∀ id ∈ (outcome side).instances, id.text ∈ g.instances := by
    intro side
    have hstage := hp.stages side
    rw [hr side] at hstage
    exact hstage _ rfl
  choose kept hkept hkeptGood hids using hreturned
  obtain ⟨side, hlater, hheld⟩ := exists_last hv hi hrun kept fun side => by
    rw [hr side]
    exact hkept side
  rw [hgood _ (hkeptGood side)] at hheld
  refine ⟨side, kept side, hlater, hkept side, Files.load_run_eq_ok_iff.2 hheld, hids side, ?_⟩
  rintro hloaded before after q rfl halone hbefore ⟨g, hk⟩
  rw [run_append, hbefore] at hrun
  have hcw : w.choice = .loaded name := by
    rcases hname with ⟨-, hcw, -⟩ | ⟨hcv, -⟩
    · exact hcw
    · rw [hcv] at hloaded
      cases hloaded
  obtain ⟨g', hgroup, hlists⟩ :=
    lists_of_later hdir (hchoice _ hloaded hcw) hv hi hgood halone hbefore hrun hk hr
  obtain rfl : kept side = g' := Option.some.inj ((hkept side).symm.trans hgroup)
  exact hlists

/-- The one after the other. -/
def inTurn : List (Side × Action) :=
  (oneCreated "b").map (Side.first, ·) ++ (oneCreated "c").map (Side.second, ·)

def inTurnOutcome : Side → Outcome :=
  Side.of ⟨[⟨"b"⟩], some ⟨"fleet", ["a", "b"]⟩⟩ ⟨[⟨"c"⟩], some ⟨"fleet", ["a", "b", "c"]⟩⟩

theorem inTurn_remains :
    let before := Files.oneGroup "fleet.json" ⟨"fleet", ["a"]⟩
    let after := before.put ["groups", "fleet.json"] (.file (Group.document ⟨"fleet", ["a", "b", "c"]⟩))
    ∃ first second, (Pair.start oneForFleet oneForFleet before).run oneForFleet oneForFleet inTurn =
        some ⟨.returned (.ok (inTurnOutcome .first)) first,
          .returned (.ok (inTurnOutcome .second)) second, after⟩ ∧
      ∃ side g, StoresLater oneForFleet oneForFleet before inTurn side ∧
        (inTurnOutcome side).group = some g ∧
        (Files.load "/groups" "fleet").run after = (.ok g, after) := by
  intro before after
  have hname : ∀ g, (Files.load "/groups" "fleet").run before = (.ok g, before) →
      g.name = "fleet" := by
    intro g hg
    cases hg
    rfl
  have key : ∀ first second, (Pair.start oneForFleet oneForFleet before).run oneForFleet oneForFleet
      inTurn = some ⟨.returned (.ok (inTurnOutcome .first)) first,
        .returned (.ok (inTurnOutcome .second)) second, after⟩ →
      ∃ side g, StoresLater oneForFleet oneForFleet before inTurn side ∧
        (inTurnOutcome side).group = some g ∧
        (Files.load "/groups" "fleet").run after = (.ok g, after) := by
    intro first second hrun
    have hr : ∀ side, Pair.stage ⟨.returned (.ok (inTurnOutcome .first)) first,
        .returned (.ok (inTurnOutcome .second)) second, after⟩ side =
          .returned (.ok (inTurnOutcome side)) (Side.of first second side) := by
      intro side
      cases side <;> rfl
    obtain ⟨side, g, hlater, hgroup, hload, -⟩ :=
      last_stored_remains rfl rfl (.inl ⟨rfl, rfl, hname⟩) hrun hr
    exact ⟨side, g, hlater, hgroup, hload⟩
  exact ⟨_, _, rfl, key _ _ rfl⟩

/-- The second finds the group before the first has stored it, and stores it when the first has. -/
def overlapping : List (Side × Action) :=
  (oneCreated "c").take 2 |>.map (Side.second, ·) |>.append ((oneCreated "b").map (Side.first, ·))
    |>.append (((oneCreated "c").drop 2).map (Side.second, ·))

/-- Both invocations return success, and what the first has created and printed is not in the group. -/
theorem later_store_loses_instance :
    let before := Files.oneGroup "fleet.json" ⟨"fleet", ["a"]⟩
    let after := before.put ["groups", "fleet.json"] (.file (Group.document ⟨"fleet", ["a", "c"]⟩))
    oneForFleet.options.policy = .savePartial ∧
      (∃ last last', (Pair.start oneForFleet oneForFleet before).run oneForFleet oneForFleet
          overlapping = some ⟨.returned (.ok ⟨[⟨"b"⟩], some ⟨"fleet", ["a", "b"]⟩⟩) last,
          .returned (.ok ⟨[⟨"c"⟩], some ⟨"fleet", ["a", "c"]⟩⟩) last', after⟩) ∧
      (Files.load "/groups" "fleet").run after = (.ok ⟨"fleet", ["a", "c"]⟩, after) ∧
      "b" ∉ ["a", "c"] := by
  refine ⟨rfl, ⟨_, _, rfl⟩, ?_, by decide⟩
  rfl

end Pair

end BuildFleet.Invocation
