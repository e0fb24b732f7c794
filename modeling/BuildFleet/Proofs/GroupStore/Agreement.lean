import BuildFleet.GroupStore.Memory
import BuildFleet.Proofs.GroupStore.Files
/-!
# Two stores that answer alike (`FileGroupStore`, `InMemoryGroupStore`)

A store in files and a store in memory give the same answers to the same requests, one after the other
(`stores_answer_alike`). The files agree with the memory (`Agrees`): a group that is in memory is held by
its file, and where there is none in memory its place in the directory is free. Every request keeps that
(`Request.answers_alike`). It takes names for which there can be a file (`Files.Fits`), and a directory
that can be made and has no group in it (`Files.Vacant`).
-/
namespace BuildFleet.GroupStore

/-! ## Requests -/

inductive Request where
  | create (name : String)
  | load (name : String)
  | store (g : Group)

/-- The answer to a request: a group, unless one was to be stored. -/
abbrev Answer := Except Error (Option Group)

namespace Request

def name : Request → String
  | create name => name
  | load name => name
  | store g => g.name

/-- Why a store can refuse the request although nothing is wrong with the request itself or the
store. -/
def refusal? : Request → Option Error
  | create name => some (.alreadyExists name)
  | load name => some (.notFound name)
  | store _ => none

def onFiles (dir : String) : Request → FileProgram Answer
  | create name => (Files.create dir name).bind fun r => .done (r.map some)
  | load name => (Files.load dir name).bind fun r => .done (r.map some)
  | store g => (Files.store dir g).bind fun r => .done (r.map fun _ => none)

def onMemory (m : Memory) : Request → Answer × Memory
  | create name => ((m.create name).1.map some, (m.create name).2)
  | load name => ((m.load name).map some, m)
  | store g => (.ok none, m.store g)

def answersFromFiles (dir : String) (fs : FileSystem) : List Request → List Answer
  | [] => []
  | r :: requests =>
    ((r.onFiles dir).run fs).1 :: answersFromFiles dir ((r.onFiles dir).run fs).2 requests

def answersFromMemory (m : Memory) : List Request → List Answer
  | [] => []
  | r :: requests => (r.onMemory m).1 :: answersFromMemory (r.onMemory m).2 requests

end Request

/-! ## Names and directories -/

namespace Files

/-- A name for which there can be a file in the directory. -/
structure Fits (dir name : String) : Prop where
  accepted : Group.nameRefusal name = none
  noNul : '\x00' ∉ name.toList
  /-- It leaves room for the ending that the file has. -/
  short : name.utf8ByteSize ≤ 250
  shortPath : (pathOf dir name).utf8ByteSize ≤ FileSystem.maxPath

/-- A directory that is there or can be made, and then has no group's file in it. -/
structure Vacant (fs : FileSystem) (dir : String) : Prop where
  made : (fs.makeDirs dir).1 = .ok ()
  free : ∀ d name, (fs.makeDirs dir).2.follow [] (Path.names dir) = .ok d →
    (fs.makeDirs dir).2.node? (d ++ [name ++ ".json"]) = none

variable {dir name : String} {fs fs' : FileSystem} {g : Group} {t : Table Group}

/-- In the directory, once it is made, there is a place for a group's file with nothing at it. -/
def Free (fs : FileSystem) (dir name : String) : Prop :=
  ∃ l, (fs.makeDirs dir).2.Leads (pathOf dir name) l ∧ (fs.makeDirs dir).2.node? l = none

theorem Vacant.isFree (h : Vacant fs dir) (hname : Fits dir name) : Free fs dir name := by
  have hentry := isEntry_of_accepted hname.accepted
  have hmade : fs.makeDirs dir = (.ok (), (fs.makeDirs dir).2) := Prod.ext h.made rfl
  obtain ⟨d, hd, hdir⟩ := FileSystem.follow_of_makeDirs hmade
  have hnul : '\x00' ∉ (name ++ ".json").toList := by
    rw [String.toList_append, List.mem_append]
    exact fun hm => hm.elim hname.noNul (by decide)
  have hfault : FileSystem.pathFault (pathOf dir name) = none :=
    FileSystem.pathFault_join hentry.toIsName
      ((FileSystem.makeDirs_eq_ok hmade).imp And.left And.left) hnul hname.shortPath
  have hshort : (name ++ ".json").utf8ByteSize ≤ FileSystem.maxName := by
    rw [String.utf8ByteSize_append]
    exact Nat.add_le_add_right hname.short 5
  exact ⟨_, (FileSystem.leads_join_iff hentry).2 ⟨hfault, hshort, d, hd, hdir, rfl⟩,
    h.free d name hd⟩

/-- A directory that has a group's file is there, so it is not made again. -/
theorem makeDirs_put {l : Location} (hname : Group.nameRefusal name = none)
    (hl : fs.Leads (pathOf dir name) l) (hd : fs.node? l ≠ some .directory) (node : Node) :
    (fs.put l node).makeDirs dir = (.ok (), fs.put l node) :=
  FileSystem.makeDirs_of_leads (isName_of_accepted hname) (hl.put hd node)

theorem Free.put_of_ne {other : String} {l : Location} (h : Free fs dir other)
    (hother : Group.nameRefusal other = none) (hname : Group.nameRefusal name = none)
    (hl : (fs.makeDirs dir).2.Leads (pathOf dir name) l)
    (hd : (fs.makeDirs dir).2.node? l ≠ some .directory) (hne : other ≠ name) (node : Node) :
    Free ((fs.makeDirs dir).2.put l node) dir other := by
  obtain ⟨l', hl', hnode⟩ := h
  rw [Free, makeDirs_put hname hl hd]
  refine ⟨l', hl'.put hd node, ?_⟩
  rw [FileSystem.node?_put_of_ne (place_ne_of_ne hname hother hne hl hl'), hnode]

theorem Free.load_run (h : Free fs dir name) (hname : Group.nameRefusal name = none) :
    (load dir name).run fs = (.error (.notFound name), fs) := by
  obtain ⟨l, hl, hnode⟩ := h
  simp [load, hname, FileProgram.run, (FileSystem.not_found_of_free hl hnode).1]

/-! ## Files and memory -/

/-- The files in a directory hold the groups that a table has, and no others, as far as there can be
files. -/
structure Agrees (dir : String) (fs : FileSystem) (t : Table Group) : Prop where
  made : (fs.makeDirs dir).1 = .ok ()
  held : ∀ name g, t.get? name = some g → Fits dir name → Holds fs dir name g
  free : ∀ name, t.get? name = none → Fits dir name → Free fs dir name

theorem Vacant.agrees (h : Vacant fs dir) : Agrees dir fs .empty where
  made := h.made
  held _ _ hg := by cases hg
  free _ _ hname := h.isFree hname

theorem Agrees.load_run (h : Agrees dir fs t) (hname : Fits dir name) :
    (load dir name).run fs = (match t.get? name with
      | some g => .ok g
      | none => .error (.notFound name), fs) := by
  cases hg : t.get? name with
  | some g => exact load_run_eq_ok_iff.2 (h.held name g hg hname)
  | none => exact (h.free name hg hname).load_run hname.accepted

theorem Agrees.exists_leads (h : Agrees dir fs t) (hname : Fits dir name) :
    ∃ l, (fs.makeDirs dir).2.Leads (pathOf dir name) l ∧
      (fs.makeDirs dir).2.node? l ≠ some .directory := by
  cases hg : t.get? name with
  | some g =>
    obtain ⟨l, content, hl, hnode⟩ := ((h.held name g hg hname).makeDirs dir).exists_leads
    exact ⟨l, hl, by simp [hnode]⟩
  | none =>
    obtain ⟨l, hl, hnode⟩ := h.free name hg hname
    exact ⟨l, hl, by simp [hnode]⟩

/-- Writing a group to its file is what giving its name a new group is in memory. -/
theorem Agrees.save_run (h : Agrees dir fs t) (hname : Fits dir g.name) :
    ∃ fs', (save dir (pathOf dir g.name) g).run fs = (.ok (), fs') ∧
      Agrees dir fs' (t.insert g.name g) := by
  obtain ⟨l, hl, hd⟩ := h.exists_leads hname
  have hsave : (save dir (pathOf dir g.name) g).run fs =
      (.ok (), (fs.makeDirs dir).2.put l (.file g.document)) := by
    simp [save, FileProgram.run, h.made, FileSystem.write_of_leads hl hd]
  refine ⟨_, hsave, ?_, fun name' g' hg' hname' => ?_, fun name' hg' hname' => ?_⟩
  · rw [makeDirs_put hname.accepted hl hd]
  · rw [Table.get?_insert] at hg'
    split at hg'
    · rename_i heq
      cases hg'
      rw [heq]
      exact holds_of_write hname.accepted (save_run_eq_ok hsave).2
    · rename_i hne
      exact ((h.held name' g' hg' hname').makeDirs dir).put_of_ne hname.accepted hl hd hne _
  · rw [Table.get?_insert] at hg'
    split at hg'
    · cases hg'
    · rename_i hne
      exact (h.free name' hg' hname').put_of_ne hname'.accepted hname.accepted hl hd hne _

theorem Agrees.create_run_of_some (h : Agrees dir fs t) (hg : t.get? name = some g)
    (hname : Fits dir name) : (create dir name).run fs = (.error (.alreadyExists name), fs) :=
  create_run_of_holds (h.held name g hg hname)

theorem Agrees.create_run_of_none (h : Agrees dir fs t) (hg : t.get? name = none)
    (hname : Fits dir name) : ∃ fs', (create dir name).run fs = (.ok ⟨name, []⟩, fs') ∧
      Agrees dir fs' (t.insert name ⟨name, []⟩) := by
  obtain ⟨fs', hsave, hagrees⟩ := h.save_run (g := ⟨name, []⟩) hname
  obtain ⟨l, hl, hnode⟩ := h.free name hg hname
  have hprobe := (FileSystem.not_found_of_free hl hnode).2
  refine ⟨fs', ?_, hagrees⟩
  simp [create, Group.create_eq_ok_iff.2 ⟨hname.accepted, rfl⟩, FileProgram.run,
    FileProgram.run_bind, hprobe, hsave]

end Files

/-! ## Answers -/

namespace Request

open Files

variable {dir : String} {fs : FileSystem} {m : Memory} {r : Request} {requests : List Request}

/-- Files that agree with the memory answer a request as the memory does, and agree with it afterwards. A
request that is refused is refused for the one reason there is. -/
theorem answers_alike (h : Agrees dir fs m.groups) (hname : Fits dir r.name) :
    ((r.onFiles dir).run fs).1 = (r.onMemory m).1 ∧
      Agrees dir ((r.onFiles dir).run fs).2 (r.onMemory m).2.groups ∧
      ∀ e, (r.onMemory m).1 = .error e → r.refusal? = some e := by
  cases r with
  | create name =>
    have hcreate : Group.create name = .ok ⟨name, []⟩ :=
      Group.create_eq_ok_iff.2 ⟨hname.accepted, rfl⟩
    cases hg : m.groups.get? name with
    | some g =>
      have hrun := h.create_run_of_some hg hname
      simpa [onFiles, onMemory, FileProgram.run_bind, FileProgram.run, hrun, Memory.create, hcreate,
        hg, Except.map, refusal?] using h
    | none =>
      obtain ⟨fs', hrun, hagrees⟩ := h.create_run_of_none hg hname
      simpa [onFiles, onMemory, FileProgram.run_bind, FileProgram.run, hrun, Memory.create, hcreate,
        hg, Except.map] using hagrees
  | load name =>
    have hfits : Fits dir name := hname
    have hrun := h.load_run hfits
    cases hg : m.groups.get? name <;>
      simpa [onFiles, onMemory, FileProgram.run_bind, FileProgram.run, hrun, Memory.load, hg,
        Except.map, refusal?] using h
  | store g =>
    have hstore : Files.store dir g = save dir (pathOf dir g.name) g := by
      simp only [Files.store, show Group.nameRefusal g.name = none from hname.accepted]
    obtain ⟨fs', hrun, hagrees⟩ := h.save_run hname
    simpa [onFiles, onMemory, FileProgram.run_bind, FileProgram.run, hstore, hrun, Memory.store,
      Except.map] using hagrees

theorem answers_alike_of_agrees (h : Agrees dir fs m.groups)
    (hnames : ∀ r ∈ requests, Fits dir r.name) :
    answersFromFiles dir fs requests = answersFromMemory m requests ∧
      ∀ p ∈ requests.zip (answersFromFiles dir fs requests), ∀ e,
        p.2 = .error e → p.1.refusal? = some e := by
  induction requests generalizing fs m with
  | nil => simp [answersFromFiles, answersFromMemory]
  | cons r requests ih =>
    obtain ⟨hfirst, hagrees, hrefused⟩ := answers_alike h (hnames r (by simp))
    obtain ⟨hrest, hreasons⟩ := ih hagrees fun r hr => hnames r (by simp [hr])
    refine ⟨by simp only [answersFromFiles, answersFromMemory, hfirst, hrest], ?_⟩
    intro p hp e he
    rw [answersFromFiles, List.zip_cons_cons, List.mem_cons] at hp
    rcases hp with rfl | hp
    · exact hrefused e (hfirst ▸ he)
    · exact hreasons p hp e he

end Request

/-- A store in files (`FileGroupStore`) that begins with a directory without groups, and a store in
memory (`InMemoryGroupStore`) that begins with nothing, answer all requests alike, one after the
other; and the one reason for refusing a request is that the group that is to be created exists, or
that the group that is to be loaded does not. -/
theorem stores_answer_alike {fs : FileSystem} {dir : String} {requests : List Request}
    (hdir : Files.Vacant fs dir) (hnames : ∀ r ∈ requests, Files.Fits dir r.name) :
    Request.answersFromFiles dir fs requests = Request.answersFromMemory .empty requests ∧
      ∀ p ∈ requests.zip (Request.answersFromFiles dir fs requests), ∀ e,
        p.2 = .error e → p.1.refusal? = some e :=
  Request.answers_alike_of_agrees hdir.agrees hnames

/-- Requests of all kinds: what is asked for is not there, is there already, and is there. -/
def twoGroups : List Request :=
  [.load "größe", .create "fleet", .store ⟨"größe", ["\"a\"", "😀", "", "😀"]⟩, .create "fleet",
    .load "größe", .store ⟨"fleet", ["b"]⟩, .load "fleet"]

theorem twoGroups_answered_alike :
    Files.Vacant .empty "/groups" ∧ (∀ r ∈ twoGroups, Files.Fits "/groups" r.name) ∧
      Request.answersFromFiles "/groups" .empty twoGroups =
        [.error (.notFound "größe"), .ok (some ⟨"fleet", []⟩), .ok none,
          .error (.alreadyExists "fleet"), .ok (some ⟨"größe", ["\"a\"", "😀", "", "😀"]⟩), .ok none,
          .ok (some ⟨"fleet", ["b"]⟩)] := by
  have hdir : Files.Vacant .empty "/groups" := by
    refine ⟨rfl, fun d name hd => ?_⟩
    have hmade : (FileSystem.empty.makeDirs "/groups").2 = ⟨[(["groups"], .directory)]⟩ := rfl
    cases hd
    simp [hmade, FileSystem.node?, FileSystem.find?]
  have hnames : ∀ r ∈ twoGroups, Files.Fits "/groups" r.name := by
    have hfits : ∀ name ∈ ["fleet", "größe"], Files.Fits "/groups" name := by
      intro name hname
      simp only [List.mem_cons, List.not_mem_nil, or_false] at hname
      rcases hname with rfl | rfl
      · exact ⟨by decide, by decide, by decide, by decide⟩
      · exact ⟨by decide, by decide, by decide, by decide⟩
    exact fun r hr => hfits r.name (by revert r; decide)
  exact ⟨hdir, hnames, (stores_answer_alike hdir hnames).1⟩

end BuildFleet.GroupStore
