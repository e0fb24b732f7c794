import BuildFleet.FileSystem
import Mathlib.Data.List.Basic
/-!
# What file operations leave behind

Where a path leads depends on the directories alone, and no operation takes a directory away
(`Leads.of_directories`). So a file that was written can be read with the same path, with what was
written (`read_of_write`); making directories adds nothing else and hides nothing (`content?_makeDirs`,
`read_makeDirs`), and does nothing at all where a file in the directory can be read
(`makeDirs_of_leads`).
-/
namespace BuildFleet

/-! ## Paths -/

namespace Path

theorem pieces_of_not_mem {cs : List Char} (h : '/' ∉ cs) (held : List Char) :
    pieces held cs = [String.ofList (held.reverse ++ cs)] := by
  induction cs generalizing held with
  | nil => simp [pieces]
  | cons c cs ih =>
    obtain ⟨hc, hcs⟩ := List.ne_and_not_mem_of_not_mem_cons h
    simp [pieces, Ne.symm hc, ih hcs]

theorem pieces_append_slash (held before after : List Char) :
    pieces held (before ++ '/' :: after) = pieces held before ++ pieces [] after := by
  induction before generalizing held with
  | nil => simp [pieces]
  | cons c before ih =>
    by_cases hc : c = '/' <;> simp [pieces, hc, ih]

/-- A text that can be the name of a file in a directory. -/
structure IsName (file : String) : Prop where
  nonempty : file ≠ ""
  noSlash : '/' ∉ file.toList

theorem IsName.pieces_eq {file : String} (h : IsName file) : pieces [] file.toList = [file] := by
  rw [pieces_of_not_mem h.noSlash]
  simp

theorem IsName.isAbsolute_eq {file : String} (h : IsName file) : isAbsolute file = false := by
  have hs := h.noSlash
  unfold isAbsolute
  cases hc : file.toList with
  | nil => rfl
  | cons c cs =>
    rw [hc] at hs
    simpa using (List.ne_and_not_mem_of_not_mem_cons hs).1.symm

/-- A file below a directory: nothing, or a slash, comes between them. -/
theorem join_eq {file : String} (h : IsName file) (dir : String) :
    (join dir file = dir ++ file ∧ (dir = "" ∨ ∃ cs, dir.toList = cs ++ ['/'])) ∨
      join dir file = dir ++ "/" ++ file := by
  unfold join
  rw [h.isAbsolute_eq]
  by_cases hd : dir.isEmpty || dir.toList.getLast? == some '/'
  · refine .inl ⟨by simp [hd], ?_⟩
    rcases Bool.or_eq_true_iff.1 hd with hd | hd
    · exact .inl (by simpa using hd)
    · exact .inr (List.getLast?_eq_some_iff.1 (by simpa using hd))
  · exact .inr (by simp [hd])

theorem names_join {file : String} (h : IsName file) (dir : String) :
    names (join dir file) = names dir ++ [file] := by
  unfold names
  rcases join_eq h dir with ⟨hj, rfl | ⟨cs, hd⟩⟩ | hj
  · have hp : pieces [] "".toList = [""] := rfl
    rw [hj, hp]
    simp [h.pieces_eq, h.nonempty]
  · have hp : pieces [] (cs ++ ['/']) = pieces [] cs ++ [""] := pieces_append_slash [] cs []
    rw [hj, String.toList_append, hd, hp, List.append_assoc, List.singleton_append,
      pieces_append_slash, h.pieces_eq]
    simp [h.nonempty]
  · rw [hj, String.toList_append, String.toList_append]
    have hs : "/".toList = ['/'] := rfl
    rw [hs, List.append_assoc, List.singleton_append, pieces_append_slash, h.pieces_eq]
    simp [h.nonempty]

end Path

namespace FileSystem

theorem pathFault_dir {dir file : String} (h : Path.IsName file)
    (hp : pathFault (Path.join dir file) = none) : dir = "" ∨ pathFault dir = none := by
  have hj : ∃ tail, Path.join dir file = dir ++ tail := by
    rcases Path.join_eq h dir with ⟨hj, -⟩ | hj
    · exact ⟨_, hj⟩
    · exact ⟨_, hj.trans (String.append_assoc ..)⟩
  obtain ⟨tail, hj⟩ := hj
  by_cases hd : dir = ""
  · exact .inl hd
  · refine .inr ?_
    simp only [pathFault, hj, String.toList_append, List.contains_append, String.utf8ByteSize_append]
      at hp ⊢
    grind [String.isEmpty_iff]

/-! ## Files and their content -/

/-- The content of the file at a location, if there is one. -/
def content? (fs : FileSystem) (l : Location) : Option (List UInt8) :=
  match fs.node? l with
  | some (.file content) => some content
  | _ => none

theorem content?_put_of_ne {l location : Location} (h : l ≠ location) (fs : FileSystem)
    (node : Node) : (fs.put location node).content? l = fs.content? l := by
  simp only [content?, node?_put_of_ne h]

/-- Putting a node where there is no directory takes no directory away. -/
theorem directory_put {fs : FileSystem} {location : Location}
    (h : fs.node? location ≠ some .directory) (node : Node) {l : Location}
    (hl : fs.node? l = some .directory) : (fs.put location node).node? l = some .directory := by
  have hne : l ≠ location := fun he => h (he ▸ hl)
  rwa [node?_put_of_ne hne]

/-! ## Following paths -/

/-- Where a name leads from a directory, if it is not too long. -/
def enter (location : Location) (name : String) : Option Location :=
  if name = "." then some location
  else if name = ".." then some location.dropLast
  else if maxName < name.utf8ByteSize then none
  else some (location ++ [name])

/-- Names lead on from directories only, and where they lead depends on nothing else. -/
theorem follow_cons_eq_ok_iff {fs : FileSystem} {location l : Location} {name : String}
    {names : List String} : fs.follow location (name :: names) = .ok l ↔
      fs.node? location = some .directory ∧
        ∃ next, enter location name = some next ∧ fs.follow next names = .ok l := by
  cases hd : fs.node? location with
  | none => simp [follow, hd]
  | some node =>
    cases node with
    | file => simp [follow, hd]
    | directory =>
      by_cases h₁ : name = "."
      · simp [follow, enter, hd, h₁]
      · by_cases h₂ : name = ".."
        · simp [follow, enter, hd, h₂]
        · by_cases h₃ : maxName < name.utf8ByteSize <;> simp [follow, enter, hd, h₁, h₂, h₃]

theorem follow_of_directories {fs fs' : FileSystem}
    (h : ∀ l, fs.node? l = some .directory → fs'.node? l = some .directory)
    {location l : Location} {names : List String} (hf : fs.follow location names = .ok l) :
    fs'.follow location names = .ok l := by
  induction names generalizing location with
  | nil => exact hf
  | cons name names ih =>
    obtain ⟨hd, next, hnext, hf⟩ := follow_cons_eq_ok_iff.1 hf
    exact follow_cons_eq_ok_iff.2 ⟨h _ hd, next, hnext, ih hf⟩

theorem follow_append {fs : FileSystem} {location l : Location} {before after : List String}
    (hf : fs.follow location (before ++ after) = .ok l) :
    ∃ between, fs.follow location before = .ok between ∧ fs.follow between after = .ok l := by
  induction before generalizing location with
  | nil => exact ⟨_, rfl, hf⟩
  | cons name before ih =>
    obtain ⟨hd, next, hnext, hf⟩ := follow_cons_eq_ok_iff.1 hf
    obtain ⟨between, hbefore, hafter⟩ := ih hf
    exact ⟨between, follow_cons_eq_ok_iff.2 ⟨hd, next, hnext, hbefore⟩, hafter⟩

theorem directory_of_follow {fs : FileSystem} {location l : Location} {names : List String}
    (hf : fs.follow location names = .ok l) (hl : fs.node? l = some .directory) :
    fs.node? location = some .directory := by
  cases names with
  | nil => cases hf; exact hl
  | cons => exact (follow_cons_eq_ok_iff.1 hf).1

/-- The path leads to a location, at which a file can be. -/
structure Leads (fs : FileSystem) (path : String) (l : Location) : Prop where
  noFault : pathFault path = none
  noSlash : Path.endsInSlash path = false
  follow : fs.follow [] (Path.names path) = .ok l

namespace Leads

variable {fs fs' : FileSystem} {path : String} {l : Location}

theorem of_directories (h : fs.Leads path l)
    (hd : ∀ l, fs.node? l = some .directory → fs'.node? l = some .directory) : fs'.Leads path l :=
  ⟨h.noFault, h.noSlash, follow_of_directories hd h.follow⟩

theorem put (h : fs.Leads path l) {place : Location} (hd : fs.node? place ≠ some .directory)
    (node : Node) : (fs.put place node).Leads path l :=
  h.of_directories fun _ => directory_put hd node

theorem locate (h : fs.Leads path l) : fs.locate path = .ok l := by
  simp only [FileSystem.locate, h.noFault, h.follow, h.noSlash]
  split <;> rfl

theorem locateTarget (h : fs.Leads path l) : fs.locateTarget path = .ok l := by
  simp [FileSystem.locateTarget, h.noFault, h.follow, h.noSlash]

end Leads

/-! ## Reading and writing -/

section
variable {fs fs' : FileSystem} {path : String} {content : List UInt8} {l : Location}

theorem read_eq_ok_iff :
    fs.read path = .ok content ↔ ∃ l, fs.Leads path l ∧ fs.node? l = some (.file content) := by
  constructor
  · intro h
    simp only [read, locate] at h
    split at h
    · cases h
    · rename_i l hl
      split at hl
      · cases hl
      · rename_i hfault
        split at hl
        · cases hl
        · rename_i l' hfollow
          split at h
          · cases h
          · cases h
          · rename_i hnode
            cases h
            split at hl
            · split at hl
              · cases hl
              · cases hl
                exact ⟨_, ⟨hfault, eq_false_of_ne_true ‹_›, hfollow⟩, hnode⟩
            · cases hl
              simp_all
  · rintro ⟨l, hl, hnode⟩
    simp [read, hl.locate, hnode]

theorem read_of_probe (h : fs.probe path = .ok false) : fs.read path = .error .notFound := by
  unfold probe at h
  unfold read
  split at h
  · rename_i l hl
    simp only [Except.ok.injEq, Option.isSome_eq_false_iff, Option.isNone_iff_eq_none] at h
    simp [hl, h]
  · rename_i hl
    simp [hl]
  · cases h

theorem probe_of_read (h : fs.read path = .ok content) : fs.probe path = .ok true := by
  obtain ⟨l, hl, hnode⟩ := read_eq_ok_iff.1 h
  simp [probe, hl.locate, hnode]

theorem write_of_leads (h : fs.Leads path l) (hd : fs.node? l ≠ some .directory)
    (content : List UInt8) : fs.write path content = (.ok (), fs.put l (.file content)) := by
  simp only [write, h.locateTarget]

theorem write_eq_ok_iff : fs.write path content = (.ok (), fs') ↔
    ∃ l, fs.Leads path l ∧ fs.node? l ≠ some .directory ∧ fs' = fs.put l (.file content) := by
  constructor
  · intro h
    simp only [write, locateTarget] at h
    split at h
    · cases h
    · rename_i l hl
      split at h
      · cases h
      · rename_i hd
        cases h
        split at hl
        · cases hl
        · rename_i hfault
          split at hl
          · split at hl <;> cases hl
          · exact ⟨l, ⟨hfault, eq_false_of_ne_true ‹_›, hl⟩, hd, rfl⟩
  · rintro ⟨l, hl, hd, rfl⟩
    exact write_of_leads hl hd content

theorem write_eq_of_error {e : IoError} (h : (fs.write path content).1 = .error e) :
    (fs.write path content).2 = fs := by
  unfold write at h ⊢
  split
  · rfl
  · rename_i hl
    simp only [hl] at h
    split at h
    · rfl
    · cases h

theorem read_of_write (h : fs.write path content = (.ok (), fs')) : fs'.read path = .ok content := by
  obtain ⟨l, hl, hd, rfl⟩ := write_eq_ok_iff.1 h
  have hroot : l ≠ [] := by
    rintro rfl
    exact hd rfl
  exact read_eq_ok_iff.2 ⟨l, hl.put hd _, node?_put hroot _ _⟩

end

/-! ## Making directories -/

section
variable {fs : FileSystem} {path : String} {l : Location}

theorem node?_makeFrom {location : Location} {made : Bool} {names : List String} {node : Node}
    (h : fs.node? l = some node) : (fs.makeFrom location made names).2.node? l = some node := by
  induction names generalizing fs location made with
  | nil => exact h
  | cons name names ih =>
    simp only [makeFrom]
    split
    · exact ih h
    · split
      · exact ih h
      · split
        · exact h
        · split
          · exact ih h
          · exact h
          · rename_i hnone
            split
            · exact h
            · refine ih ?_
              rwa [node?_put_of_ne]
              rintro rfl
              rw [hnone] at h
              cases h

theorem content?_makeFrom {location : Location} {made : Bool} {names : List String} :
    (fs.makeFrom location made names).2.content? l = fs.content? l := by
  induction names generalizing fs location made with
  | nil => rfl
  | cons name names ih =>
    simp only [makeFrom]
    split
    · exact ih
    · split
      · exact ih
      · split
        · rfl
        · split
          · exact ih
          · rfl
          · rename_i hnone
            split
            · rfl
            · rw [ih]
              by_cases hl : l = location ++ [name]
              · subst hl
                simp [content?, hnone, node?_put]
              · exact content?_put_of_ne hl _ _

theorem node?_makeDirs {node : Node} (h : fs.node? l = some node) :
    (fs.makeDirs path).2.node? l = some node := by
  unfold makeDirs
  split
  · exact h
  · split
    · exact h
    · exact node?_makeFrom h

theorem content?_makeDirs : (fs.makeDirs path).2.content? l = fs.content? l := by
  unfold makeDirs
  split
  · rfl
  · split
    · rfl
    · exact content?_makeFrom

theorem read_makeDirs {file : String} {content : List UInt8} (h : fs.read file = .ok content) :
    (fs.makeDirs path).2.read file = .ok content := by
  obtain ⟨l, hl, hnode⟩ := read_eq_ok_iff.1 h
  exact read_eq_ok_iff.2 ⟨l, hl.of_directories fun _ => node?_makeDirs, node?_makeDirs hnode⟩

theorem makeFrom_of_follow {location : Location} {made : Bool} {names : List String}
    (hf : fs.follow location names = .ok l) (hl : fs.node? l = some .directory) :
    fs.makeFrom location made names = (.ok (), fs) := by
  induction names generalizing location made with
  | nil => rfl
  | cons name names ih =>
    obtain ⟨-, next, hnext, hf⟩ := follow_cons_eq_ok_iff.1 hf
    have hd := directory_of_follow hf hl
    unfold enter at hnext
    simp only [makeFrom]
    split at hnext
    · cases hnext
      rw [if_pos ‹_›]
      exact ih hf
    · rw [if_neg ‹_›]
      split at hnext
      · cases hnext
        rw [if_pos ‹_›]
        exact ih hf
      · rw [if_neg ‹_›]
        split at hnext
        · cases hnext
        · cases hnext
          rw [if_neg ‹_›]
          simp only [hd]
          exact ih hf

/-- Where a path leads to a place in a directory, the directory is there. -/
theorem makeDirs_of_leads {dir file : String} (hfile : Path.IsName file)
    (h : fs.Leads (Path.join dir file) l) : fs.makeDirs dir = (.ok (), fs) := by
  unfold makeDirs
  split
  · rfl
  · rename_i hne
    have hfault : pathFault dir = none :=
      (pathFault_dir hfile h.noFault).resolve_left fun he => hne (by simp [he])
    have hfollow := h.follow
    rw [Path.names_join hfile] at hfollow
    obtain ⟨between, hdir, hlast⟩ := follow_append hfollow
    rw [hfault]
    exact makeFrom_of_follow hdir (follow_cons_eq_ok_iff.1 hlast).1

end

end FileSystem

end BuildFleet
