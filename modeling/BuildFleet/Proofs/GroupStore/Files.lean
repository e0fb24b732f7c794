import BuildFleet.GroupStore.Files
import BuildFleet.Proofs.Directory
import BuildFleet.Proofs.Document
import BuildFleet.Proofs.FileProgram
import BuildFleet.Proofs.Group
/-!
# What the store does to its files (`FileGroupStore`)

A stored group is there to be loaded, as it was (`holds_of_store`). Where the group's file can be read
already, storing changes that file and nothing else (`store_run_of_holds`); creating a group makes one
file (`create_run_eq_ok`). An operation that fails changes no file, though it may have made directories
(`content?_of_save_error`, `content?_of_create_error`).
-/
namespace BuildFleet.GroupStore.Files

variable {dir name : String} {fs fs' : FileSystem} {g g' : Group}

theorem noSlash_of_accepted (h : Group.nameRefusal name = none) : '/' ∉ name.toList := by
  intro hslash
  unfold Group.nameRefusal at h
  split at h
  · cases h
  · simp [hslash] at h

theorem isEntry_of_accepted (h : Group.nameRefusal name = none) : Path.IsEntry (name ++ ".json") :=
  Path.isEntry_append (noSlash_of_accepted h) (by decide) (by decide)

theorem isName_of_accepted (h : Group.nameRefusal name = none) : Path.IsName (name ++ ".json") :=
  (isEntry_of_accepted h).toIsName

/-- A directory with one file in it, which holds a group. -/
def oneGroup (file : String) (g : Group) : FileSystem :=
  ⟨[(["groups"], .directory), (["groups", file], .file g.document)]⟩

/-! ## Loading -/

/-- The file for a name holds a group, whatever that group is called. -/
def Holds (fs : FileSystem) (dir name : String) (g : Group) : Prop :=
  Group.nameRefusal name = none ∧
    ∃ bytes, fs.read (pathOf dir name) = .ok bytes ∧ Group.ofDocument bytes = .ok g

theorem load_run_files : ((load dir name).run fs).2 = fs := by
  unfold load
  split
  · rfl
  · simp only [FileProgram.run]
    split <;> rfl

/-- What is loaded is what the file holds. -/
theorem load_run_eq_ok_iff : (load dir name).run fs = (.ok g, fs) ↔ Holds fs dir name g := by
  unfold Holds load
  split
  · rename_i hname
    simp [hname, FileProgram.run]
  · rename_i hname
    simp only [hname, true_and, FileProgram.run]
    split
    · rename_i hread
      simp [hread, FileProgram.run]
    · rename_i hread
      simp [hread, FileProgram.run]
    · rename_i bytes hread
      simp only [hread, FileProgram.run]
      split <;> simp_all

theorem Holds.unique (h : Holds fs dir name g) (h' : Holds fs dir name g') : g = g' := by
  obtain ⟨-, bytes, hread, hdocument⟩ := h
  obtain ⟨-, bytes', hread', hdocument'⟩ := h'
  cases hread.symm.trans hread'
  exact Except.ok.inj (hdocument.symm.trans hdocument')

theorem Holds.exists_leads (h : Holds fs dir name g) :
    ∃ l content, fs.Leads (pathOf dir name) l ∧ fs.node? l = some (.file content) := by
  obtain ⟨-, bytes, hread, -⟩ := h
  obtain ⟨l, hl, hnode⟩ := FileSystem.read_eq_ok_iff.1 hread
  exact ⟨l, bytes, hl, hnode⟩

theorem Holds.makeDirs (h : Holds fs dir name g) (path : String) :
    Holds (fs.makeDirs path).2 dir name g := by
  obtain ⟨hname, bytes, hread, hdocument⟩ := h
  exact ⟨hname, bytes, FileSystem.read_makeDirs hread, hdocument⟩

/-- The files of groups of different names are at different places. -/
theorem place_ne_of_ne {other : String} {l l' : Location} (hname : Group.nameRefusal name = none)
    (hother : Group.nameRefusal other = none) (hne : other ≠ name)
    (hl : fs.Leads (pathOf dir name) l) (hl' : fs.Leads (pathOf dir other) l') : l' ≠ l := by
  rintro rfl
  exact hne (String.append_left_inj ".json" |>.1 (FileSystem.name_eq_of_leads
    (isEntry_of_accepted hother) (isEntry_of_accepted hname) hl' hl))

/-- New content for the file of a group does not change what is loaded for other names. -/
theorem load_run_put_of_ne {other : String} {l : Location} {content content' : List UInt8}
    (hname : Group.nameRefusal name = none) (hl : fs.Leads (pathOf dir name) l)
    (hnode : fs.node? l = some (.file content)) (hne : other ≠ name) :
    ((load dir other).run (fs.put l (.file content'))).1 = ((load dir other).run fs).1 := by
  unfold load
  split
  · rfl
  · rename_i hother
    have hpath : ¬fs.Leads (pathOf dir other) l := fun hl' =>
      place_ne_of_ne hname hother hne hl hl' rfl
    simp only [FileProgram.run, FileSystem.read_put_of_ne hnode hpath]
    split <;> rfl

theorem Holds.put_of_ne {other : String} {l : Location} (h : Holds fs dir other g)
    (hname : Group.nameRefusal name = none) (hl : fs.Leads (pathOf dir name) l)
    (hd : fs.node? l ≠ some .directory) (hne : other ≠ name) (node : Node) :
    Holds (fs.put l node) dir other g := by
  obtain ⟨hother, bytes, hread, hdocument⟩ := h
  obtain ⟨l', hl', hnode⟩ := FileSystem.read_eq_ok_iff.1 hread
  refine ⟨hother, bytes, FileSystem.read_eq_ok_iff.2 ⟨l', ?_, ?_⟩, hdocument⟩
  · exact hl'.put hd node
  · rw [FileSystem.node?_put_of_ne (place_ne_of_ne hname hother hne hl hl'), hnode]

theorem holds_of_write (hname : Group.nameRefusal name = none)
    (h : fs.write (pathOf dir name) g.document = (.ok (), fs')) : Holds fs' dir name g :=
  ⟨hname, _, FileSystem.read_of_write h, g.ofDocument_document⟩

/-! ## Storing -/

theorem save_run_eq_ok {path : String} (h : (save dir path g).run fs = (.ok (), fs')) :
    fs.makeDirs dir = (.ok (), (fs.makeDirs dir).2) ∧
      (fs.makeDirs dir).2.write path g.document = (.ok (), fs') := by
  unfold save at h
  simp only [FileProgram.run] at h
  cases hmade : (fs.makeDirs dir).1 with
  | error e => simp [hmade, FileProgram.run] at h
  | ok made =>
    refine ⟨Prod.ext hmade rfl, ?_⟩
    simp only [hmade, FileProgram.run] at h
    cases hwritten : ((fs.makeDirs dir).2.write path g.document).1 with
    | error e => simp [hwritten, FileProgram.run] at h
    | ok written =>
      simp only [hwritten, FileProgram.run, Prod.mk.injEq, true_and] at h
      exact Prod.ext hwritten h

theorem content?_of_save_error {path : String} {e : Error}
    (h : (save dir path g).run fs = (.error e, fs')) (l : Location) :
    fs'.content? l = fs.content? l := by
  unfold save at h
  simp only [FileProgram.run] at h
  cases hmade : (fs.makeDirs dir).1 with
  | error e =>
    simp only [hmade, FileProgram.run, Prod.mk.injEq] at h
    rw [← h.2, FileSystem.content?_makeDirs]
  | ok made =>
    simp only [hmade, FileProgram.run] at h
    cases hwritten : ((fs.makeDirs dir).2.write path g.document).1 with
    | error e =>
      simp only [hwritten, FileProgram.run, Prod.mk.injEq] at h
      rw [← h.2, FileSystem.write_eq_of_error hwritten, FileSystem.content?_makeDirs]
    | ok written => simp [hwritten, FileProgram.run] at h

theorem store_run_eq_ok (h : (store dir g).run fs = (.ok (), fs')) :
    Group.nameRefusal g.name = none ∧ (save dir (pathOf dir g.name) g).run fs = (.ok (), fs') := by
  unfold store at h
  split at h
  · cases h
  · exact ⟨‹_›, h⟩

/-- A stored group can be loaded, as it was. -/
theorem holds_of_store (h : (store dir g).run fs = (.ok (), fs')) : Holds fs' dir g.name g := by
  obtain ⟨hname, hsave⟩ := store_run_eq_ok h
  exact holds_of_write hname (save_run_eq_ok hsave).2

/-- Where there is a file for a name that can be read, storing a group of that name changes that file and
nothing else. -/
theorem store_run_of_holds (h : Holds fs dir name g) : ∃ l,
    fs.locate (pathOf dir name) = .ok l ∧ ∀ g', g'.name = name →
      (store dir g').run fs = (.ok (), fs.put l (.file g'.document)) := by
  obtain ⟨hname, bytes, hread, -⟩ := h
  obtain ⟨l, hl, hnode⟩ := FileSystem.read_eq_ok_iff.1 hread
  refine ⟨l, hl.locate, ?_⟩
  rintro g' rfl
  have hmade := FileSystem.makeDirs_of_leads (isName_of_accepted hname) hl
  have hwritten := FileSystem.write_of_leads hl (by simp [hnode]) g'.document
  simp [store, hname, save, FileProgram.run, hmade, hwritten]

/-! ## Creating -/

/-- Creating a group writes the empty group to a file that was not there. -/
theorem create_run_eq_ok (h : (create dir name).run fs = (.ok g, fs')) :
    g = ⟨name, []⟩ ∧ (load dir name).run fs = (.error (.notFound name), fs) ∧
      Holds fs' dir name g ∧
      ∃ l, fs'.locate (pathOf dir name) = .ok l ∧
        ∀ l', l' ≠ l → fs'.content? l' = fs.content? l' := by
  unfold create at h
  split at h
  · cases h
  · rename_i g₀ hg
    obtain ⟨hname, rfl⟩ := Group.create_eq_ok_iff.1 hg
    simp only [FileProgram.run] at h
    split at h
    · cases h
    · cases h
    · rename_i hprobe
      rw [FileProgram.run_bind] at h
      split at h
      · cases h
      · rename_i hsaved
        obtain ⟨rfl, hfiles⟩ : ⟨name, []⟩ = g ∧ _ = fs' := by simpa [FileProgram.run] using h
        have hsave := save_run_eq_ok (Prod.ext hsaved hfiles)
        obtain ⟨l, hl, hd, hput⟩ := FileSystem.write_eq_ok_iff.1 hsave.2
        refine ⟨rfl, ?_, holds_of_write hname hsave.2, l, ?_, fun l' hl' => ?_⟩
        · simp [load, hname, FileProgram.run, FileSystem.read_of_probe hprobe]
        · rw [hput]
          exact (hl.put hd _).locate
        · rw [hput, FileSystem.content?_put_of_ne hl', FileSystem.content?_makeDirs]

theorem create_run_of_holds (h : Holds fs dir name g) :
    (create dir name).run fs = (.error (.alreadyExists name), fs) := by
  obtain ⟨hname, bytes, hread, -⟩ := h
  simp [create, Group.create_eq_ok_iff.2 ⟨hname, rfl⟩, FileProgram.run,
    FileSystem.probe_of_read hread]

/-- A group that could not be created leaves all files as they were. -/
theorem content?_of_create_error {e : Error} (h : (create dir name).run fs = (.error e, fs'))
    (l : Location) : fs'.content? l = fs.content? l := by
  unfold create at h
  split at h
  · cases h
    rfl
  · simp only [FileProgram.run] at h
    split at h
    · cases h
      rfl
    · cases h
      rfl
    · rw [FileProgram.run_bind] at h
      split at h
      · rename_i e' hsaved
        obtain ⟨-, hfiles⟩ : e' = e ∧ _ = fs' := by simpa [FileProgram.run] using h
        exact content?_of_save_error (Prod.ext hsaved hfiles) l
      · cases h

/-! ## Beside others -/

section
variable {inv : FileSystem → Prop}

/-- What is loaded is what the file held at some time while others were at work. -/
theorem load_keeps {post : Group → Prop}
    (h : ∀ fs, inv fs → ∀ g, Holds fs dir name g → post g) (start : FileSystem) :
    (load dir name).Keeps inv (fun result _ => ∀ g, result = .ok g → post g) start := by
  unfold load
  split
  · intro g he
    cases he
  · rename_i hname
    intro fs hi
    beta_reduce
    split
    · intro g he
      cases he
    · intro g he
      cases he
    · rename_i bytes hread
      intro g he
      split at he
      · cases he
        exact h fs hi _ ⟨hname, bytes, hread, ‹_›⟩
      · cases he

/-- A group that was stored is in its file right after the last operation. -/
theorem store_keeps (hdirs : ∀ fs path, inv fs → inv (fs.makeDirs path).2)
    (hwrite : ∀ fs, Holds fs dir g.name g → inv fs) (start : FileSystem) :
    (store dir g).Keeps inv (fun result fs => result = .ok () → Holds fs dir g.name g) start := by
  unfold store
  split
  · intro he
    cases he
  · rename_i hname
    intro fs hi
    refine ⟨hdirs fs dir hi, ?_⟩
    beta_reduce
    split
    · intro he
      cases he
    · intro fs hi
      cases hw : (fs.write (pathOf dir g.name) g.document).1 with
      | error e =>
        rw [FileSystem.write_eq_of_error hw]
        exact ⟨hi, fun he => by cases he⟩
      | ok =>
        have hheld : Holds (fs.write (pathOf dir g.name) g.document).2 dir g.name g :=
          holds_of_write hname (Prod.ext hw rfl)
        exact ⟨hwrite _ hheld, fun _ => hheld⟩

theorem create_keeps (start : FileSystem) :
    (create dir name).Keeps (fun _ => True) (fun result _ => ∀ g, result = .ok g → g = ⟨name, []⟩)
      start := by
  unfold create
  split
  · intro g he
    cases he
  · rename_i g₀ hg
    obtain ⟨-, hempty⟩ := Group.create_eq_ok_iff.1 hg
    intro fs _
    beta_reduce
    split
    · intro g he
      cases he
    · intro g he
      cases he
    · refine (FileProgram.keeps_true _ fs).bind fun result fs _ => ?_
      split
      · intro g he
        cases he
      · intro g he
        exact (Except.ok.inj he).symm.trans hempty

end

end BuildFleet.GroupStore.Files
