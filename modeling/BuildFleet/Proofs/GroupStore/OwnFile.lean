import BuildFleet.Proofs.Footprint
import BuildFleet.Proofs.GroupStore.Agreement
/-!
# Every group keeps to its file (`FileGroupStore`)

A request to a store in files names one file and the directory of the store in all its operations
(`onFiles_usesOnly`), so nothing else changes, whatever the answer is. For a name that is accepted, the file
is a child of the directory that no other such name leads to (`isOwn_of_accepted`); a name that is refused is
refused before anything is done (`run_of_refused`). `keeps_to_own_file` puts this together. It is about every
text as a name, with dots, blanks and endings like those of the files, and about all files, the directory
missing or in the way.
-/
namespace BuildFleet.GroupStore

namespace Files

variable {dir name : String} {fs fs' : FileSystem} {g : Group}

/-! ## The file for a name -/

/-- The directory that a path leads to is at a location. -/
structure DirectoryAt (fs : FileSystem) (dir : String) (d : Location) : Prop where
  led : fs.follow [] (Path.names dir) = .ok d
  there : fs.node? d = some .directory

/-- Whatever the files are, the file for a name is a child of the directory, and the file for another name
is another one. -/
structure IsOwn (dir name : String) : Prop where
  child : ∀ (fs : FileSystem) l, fs.Leads (pathOf dir name) l →
    ∃ d, DirectoryAt fs dir d ∧ l = d ++ [name ++ ".json"]
  path_ne : ∀ other, Group.nameRefusal other = none → other ≠ name →
    pathOf dir other ≠ pathOf dir name
  place_ne : ∀ other, Group.nameRefusal other = none → other ≠ name →
    ∀ (fs : FileSystem) l l', fs.Leads (pathOf dir name) l → fs.Leads (pathOf dir other) l' → l' ≠ l

theorem names_pathOf (h : Group.nameRefusal name = none) :
    Path.names (pathOf dir name) = Path.names dir ++ [name ++ ".json"] :=
  Path.names_join (isName_of_accepted h) dir

theorem isOwn_of_accepted (h : Group.nameRefusal name = none) : IsOwn dir name where
  child fs l hl := by
    obtain ⟨-, -, d, hd, hdir, rfl⟩ := (FileSystem.leads_join_iff (isEntry_of_accepted h)).1 hl
    exact ⟨d, ⟨hd, hdir⟩, rfl⟩
  path_ne other hother hne heq := by
    have hnames := congrArg Path.names heq
    rw [names_pathOf hother, names_pathOf h, List.append_cancel_left_eq, List.singleton_inj] at hnames
    exact hne ((String.append_left_inj ".json").1 hnames)
  place_ne _ hother hne _ _ _ hl hl' := place_ne_of_ne h hother hne hl hl'

/-! ## What an operation uses -/

theorem save_usesOnly (dir path : String) (g : Group) : (save dir path g).UsesOnly path dir := by
  refine ⟨rfl, fun made => ?_⟩
  cases made with
  | error e => trivial
  | ok => exact ⟨rfl, fun written => by cases written <;> trivial⟩

theorem create_usesOnly (dir name : String) :
    (create dir name).UsesOnly (pathOf dir name) dir := by
  unfold create
  split
  · trivial
  · refine ⟨rfl, fun found => ?_⟩
    beta_reduce
    split
    · trivial
    · trivial
    · exact (save_usesOnly dir _ _).bind fun saved => by cases saved <;> trivial

theorem load_usesOnly (dir name : String) : (load dir name).UsesOnly (pathOf dir name) dir := by
  unfold load
  split
  · trivial
  · refine ⟨rfl, fun content => ?_⟩
    beta_reduce
    split <;> trivial

theorem store_usesOnly (dir : String) (g : Group) :
    (store dir g).UsesOnly (pathOf dir g.name) dir := by
  unfold store
  split
  · trivial
  · exact save_usesOnly dir _ g

/-! ## What changes nothing -/

theorem save_run_eq_error {path : String} {e : Error} (h : ((save dir path g).run fs).1 = .error e) :
    ∃ path cause, e = .io path cause := by
  unfold save at h
  simp only [FileProgram.run] at h
  split at h
  · cases h
    exact ⟨_, _, rfl⟩
  · simp only [FileProgram.run] at h
    split at h
    · cases h
      exact ⟨_, _, rfl⟩
    · cases h

/-- Only a file that was found stops a creation because of it, and then nothing has been done. -/
theorem create_run_eq_alreadyExists {other : String}
    (h : (create dir name).run fs = (.error (.alreadyExists other), fs')) : fs' = fs := by
  unfold create at h
  split at h
  · cases h
  · simp only [FileProgram.run] at h
    split at h
    · cases h
    · cases h
      rfl
    · -- No file was found. What can go wrong then is that the group cannot be saved, for another reason.
      rw [FileProgram.run_bind] at h
      split at h
      · rename_i e hsaved
        obtain ⟨he, -⟩ : e = .alreadyExists other ∧ _ = fs' := by simpa [FileProgram.run] using h
        obtain ⟨path, cause, hio⟩ := save_run_eq_error hsaved
        cases he.symm.trans hio
      · cases h

end Files

/-! ## Requests -/

namespace Request

open Files

variable {r : Request} {dir : String} {fs fs' : FileSystem} {answer : Answer} {refusal : Refusal}

theorem onFiles_usesOnly (r : Request) (dir : String) :
    (r.onFiles dir).UsesOnly (pathOf dir r.name) dir := by
  cases r with
  | create name => exact (create_usesOnly dir name).bind fun _ => trivial
  | load name => exact (load_usesOnly dir name).bind fun _ => trivial
  | store g => exact (store_usesOnly dir g).bind fun _ => trivial

theorem run_of_refused (h : Group.nameRefusal r.name = some refusal) (dir : String)
    (fs : FileSystem) : (r.onFiles dir).run fs = (.error (.invalid refusal), fs) := by
  cases r with
  | create name =>
    have hname : Group.nameRefusal name = some refusal := h
    simp [onFiles, Files.create, Group.create, hname, FileProgram.run_bind, FileProgram.run,
      Except.map]
  | load name =>
    have hname : Group.nameRefusal name = some refusal := h
    simp [onFiles, Files.load, hname, FileProgram.run_bind, FileProgram.run, Except.map]
  | store g =>
    have hname : Group.nameRefusal g.name = some refusal := h
    simp [onFiles, Files.store, hname, FileProgram.run_bind, FileProgram.run, Except.map]

/-- Whatever text a request to the store (`FileGroupStore`) has for a name, and whatever the files
are, it touches no file but the one for that name. A name that is refused is refused at once. For
one that is accepted, the file is a child of the directory and not that of another name; the request
looks for, reads and writes only this file, and nothing changes but this file and the directories
that were missing on the way to the directory. Loading changes nothing, nor does creating what
exists. -/
theorem keeps_to_own_file (h : (r.onFiles dir).run fs = (answer, fs')) :
    (∀ refusal, Group.nameRefusal r.name = some refusal →
      answer = .error (.invalid refusal) ∧ fs' = fs) ∧
    (Group.nameRefusal r.name = none →
      IsOwn dir r.name ∧ (r.onFiles dir).UsesOnly (pathOf dir r.name) dir ∧
        FileSystem.ChangedOnly (pathOf dir r.name) dir fs fs') ∧
    (∀ name, r = .load name → fs' = fs) ∧
    ∀ name, r = .create name → answer = .error (.alreadyExists name) → fs' = fs := by
  refine ⟨fun refusal hname => ?_, fun hname => ?_, ?_, ?_⟩
  · exact Prod.mk.inj (h.symm.trans (run_of_refused hname dir fs))
  · have huses := onFiles_usesOnly r dir
    have hchanged := huses.changedOnly fs
    rw [h] at hchanged
    exact ⟨isOwn_of_accepted hname, huses, hchanged⟩
  · rintro name rfl
    have hfiles := congrArg Prod.snd h
    rw [onFiles, FileProgram.run_bind] at hfiles
    exact hfiles.symm.trans load_run_files
  · rintro name rfl rfl
    rw [onFiles, FileProgram.run_bind] at h
    obtain ⟨hanswer, hfiles⟩ := Prod.mk.inj h
    cases hrun : ((Files.create dir name).run fs).1 with
    | ok g =>
      rw [hrun] at hanswer
      cases hanswer
    | error e =>
      rw [hrun] at hanswer
      cases hanswer
      exact create_run_eq_alreadyExists (Prod.ext hrun hfiles)

/-- A group that is called like the file of another group does not get into that file, and a name that
leads out of the directory gets nowhere. -/
theorem likeAFile_keeps_to_own_file :
    let fs := oneGroup "fleet.json" ⟨"fleet", []⟩
    let fs' := fs.put ["groups", "fleet.json.json"] (.file (Group.document ⟨"fleet.json", ["a"]⟩))
    ((store ⟨"fleet.json", ["a"]⟩).onFiles "/groups").run fs = (.ok none, fs') ∧
      FileSystem.ChangedOnly "/groups/fleet.json.json" "/groups" fs fs' ∧
      ((create "..").onFiles "/groups").run fs = (.error (.invalid (.groupNameIsPath "..")), fs) := by
  intro fs fs'
  have hstore : ((store ⟨"fleet.json", ["a"]⟩).onFiles "/groups").run fs = (.ok none, fs') := rfl
  obtain ⟨-, haccepted, -, -⟩ := keeps_to_own_file hstore
  obtain ⟨-, -, hchanged⟩ := haccepted (by decide)
  have hcreate := keeps_to_own_file (Prod.eta (((create "..").onFiles "/groups").run fs)).symm
  exact ⟨hstore, hchanged, Prod.ext_iff.2 (hcreate.1 _ (by decide))⟩

end Request

end BuildFleet.GroupStore
