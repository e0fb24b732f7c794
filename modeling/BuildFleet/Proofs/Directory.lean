import BuildFleet.Proofs.FileSystem
/-!
# Files in a directory

The path of a file in a directory leads through the directory to a place of its own there
(`leads_join_iff`), so files of different names are at different places (`name_eq_of_leads`). A directory
that was made is there (`follow_of_makeDirs`), and a place in it that is free was not to be found before
(`not_found_of_free`). New content for one file does not change what can be read from others
(`read_put_of_ne`).
-/
namespace BuildFleet

/-! ## Paths -/

namespace Path

/-- A name that stands for a place of its own in a directory. -/
structure IsEntry (file : String) : Prop extends IsName file where
  notDot : file ≠ "."
  notDots : file ≠ ".."

/-- A name without a slash and an ending make an entry, as they are longer than dots. -/
theorem isEntry_append {name ending : String} (hname : '/' ∉ name.toList)
    (hending : '/' ∉ ending.toList) (hlong : 3 ≤ ending.length) : IsEntry (name ++ ending) := by
  have hlength : 3 ≤ (name ++ ending).length := by
    rw [String.length_append]
    exact Nat.le_add_left_of_le hlong
  have hne : ∀ short : String, short.length < 3 → name ++ ending ≠ short := by
    rintro short hshort rfl
    exact Nat.not_lt.2 hlength hshort
  refine ⟨⟨hne "" (by decide), ?_⟩, hne "." (by decide), hne ".." (by decide)⟩
  rw [String.toList_append, List.mem_append]
  exact fun hslash => hslash.elim hname hending

theorem exists_join_eq {file : String} (h : IsName file) (dir : String) :
    ∃ front, join dir file = front ++ file := by
  rcases join_eq h dir with ⟨hj, -⟩ | hj
  · exact ⟨dir, hj⟩
  · exact ⟨dir ++ "/", hj⟩

theorem endsInSlash_join {file : String} (h : IsName file) (dir : String) :
    endsInSlash (join dir file) = false := by
  obtain ⟨front, hj⟩ := exists_join_eq h dir
  have hchars : file.toList ≠ [] := fun he => h.nonempty (by simpa using he)
  have hlast : file.toList.getLast hchars ≠ '/' := fun he =>
    h.noSlash (he ▸ List.getLast_mem hchars)
  rw [endsInSlash, hj, String.toList_append, List.getLast?_append_of_ne_nil _ hchars,
    List.getLast?_eq_some_getLast hchars]
  simpa using hlast

end Path

namespace FileSystem

variable {fs fs' : FileSystem} {path dir file : String} {location l d : Location}
  {names : List String}

theorem enter_of_isEntry (h : Path.IsEntry file) :
    enter location file = if maxName < file.utf8ByteSize then none else some (location ++ [file]) := by
  unfold enter
  rw [if_neg h.notDot, if_neg h.notDots]

theorem follow_append_of_follow {before after : List String}
    (hf : fs.follow location before = .ok d) :
    fs.follow location (before ++ after) = .ok l ↔ fs.follow d after = .ok l := by
  constructor
  · intro h
    obtain ⟨between, hbefore, hafter⟩ := follow_append h
    cases hf.symm.trans hbefore
    exact hafter
  · intro h
    induction before generalizing location with
    | nil =>
      cases hf
      exact h
    | cons name before ih =>
      obtain ⟨hd, next, hnext, hf⟩ := follow_cons_eq_ok_iff.1 hf
      exact follow_cons_eq_ok_iff.2 ⟨hd, next, hnext, ih hf⟩

/-- The path of a file in a directory leads through the directory, to a place in it. -/
theorem leads_join_iff (h : Path.IsEntry file) : fs.Leads (Path.join dir file) l ↔
    pathFault (Path.join dir file) = none ∧ file.utf8ByteSize ≤ maxName ∧
      ∃ d, fs.follow [] (Path.names dir) = .ok d ∧ fs.node? d = some .directory ∧
        l = d ++ [file] := by
  constructor
  · intro hl
    have hfollow := hl.follow
    rw [Path.names_join h.toIsName] at hfollow
    obtain ⟨d, hdir, hlast⟩ := follow_append hfollow
    obtain ⟨hd, next, hnext, hnil⟩ := follow_cons_eq_ok_iff.1 hlast
    cases hnil
    rw [enter_of_isEntry h] at hnext
    split at hnext
    · cases hnext
    · cases hnext
      exact ⟨hl.noFault, Nat.not_lt.1 ‹_›, d, hdir, hd, rfl⟩
  · rintro ⟨hfault, hshort, d, hdir, hd, rfl⟩
    refine ⟨hfault, Path.endsInSlash_join h.toIsName dir, ?_⟩
    rw [Path.names_join h.toIsName, follow_append_of_follow hdir]
    refine follow_cons_eq_ok_iff.2 ⟨hd, _, ?_, rfl⟩
    rw [enter_of_isEntry h, if_neg (Nat.not_lt.2 hshort)]

/-- A file can have a path in a directory unless that is too long or has a null character. -/
theorem pathFault_join (h : Path.IsName file) (hdir : dir = "" ∨ pathFault dir = none)
    (hnul : '\x00' ∉ file.toList) (hshort : (Path.join dir file).utf8ByteSize ≤ maxPath) :
    pathFault (Path.join dir file) = none := by
  have hdirNul : '\x00' ∉ dir.toList := by
    rcases hdir with rfl | hdir
    · simp
    · simp only [pathFault] at hdir
      split at hdir
      · cases hdir
      · rename_i hnul
        simpa using hnul
  have hfile : ¬(Path.join dir file).isEmpty := fun he => by
    obtain ⟨front, hj⟩ := Path.exists_join_eq h dir
    rw [hj, String.isEmpty_iff, String.append_eq_empty_iff] at he
    exact h.nonempty he.2
  have hpathNul : '\x00' ∉ (Path.join dir file).toList := by
    rcases Path.join_eq h dir with ⟨hj, -⟩ | hj <;> simp [hj, hdirNul, hnul]
  simp [pathFault, hpathNul, hfile, Nat.not_lt.2 hshort]

/-- Files of one directory that are at one place have one name. -/
theorem name_eq_of_leads {file' : String} (h : Path.IsEntry file) (h' : Path.IsEntry file')
    (hl : fs.Leads (Path.join dir file) l) (hl' : fs.Leads (Path.join dir file') l) :
    file = file' := by
  obtain ⟨-, -, d, -, -, rfl⟩ := (leads_join_iff h).1 hl
  obtain ⟨-, -, d', -, -, heq⟩ := (leads_join_iff h').1 hl'
  exact List.singleton_inj.1 (List.append_inj_right' heq rfl)

/-! ## Made directories -/

theorem kept_of_makeFrom {made : Bool} {result : Except IoError Unit} {node : Node}
    (h : fs.makeFrom location made names = (result, fs')) (hl : fs.node? l = some node) :
    fs'.node? l = some node := by
  have hkept : (fs.makeFrom location made names).2.node? l = some node := node?_makeFrom hl
  rwa [h] at hkept

/-- There are directories all the way to a location, and at it. -/
def Paved (fs : FileSystem) (location : Location) : Prop :=
  ∀ l, l <+: location → fs.node? l = some .directory

theorem Paved.dropLast (h : fs.Paved location) : fs.Paved location.dropLast :=
  fun l hl => h l (hl.trans <| List.dropLast_prefix _)

theorem Paved.concat {name : String} (h : fs.Paved location)
    (hkept : ∀ l, fs.node? l = some .directory → fs'.node? l = some .directory)
    (hnew : fs'.node? (location ++ [name]) = some .directory) : fs'.Paved (location ++ [name]) := by
  intro l hl
  rcases List.prefix_concat_iff.1 hl with rfl | hl
  · exact hnew
  · exact hkept l (h l hl)

/-- Making directories for some names stops at the first of them, or goes on from where that leads: a
directory that was there, or one that is made for it. -/
theorem makeFrom_cons (made : Bool) (name : String) (names : List String) (hp : fs.Paved location) :
    (∃ e, fs.makeFrom location made (name :: names) = (.error e, fs)) ∨
      ∃ (fs₁ : FileSystem) (next : Location) (made' : Bool), enter location name = some next ∧
        fs₁.Paved next ∧
        fs.makeFrom location made (name :: names) = fs₁.makeFrom next made' names ∧
        (fs₁ = fs ∨ fs.node? next = none ∧ fs₁ = fs.put next .directory) := by
  simp only [makeFrom]
  unfold enter
  split
  · exact .inr ⟨fs, location, made, rfl, hp, rfl, .inl rfl⟩
  · split
    · exact .inr ⟨fs, _, made, rfl, hp.dropLast, rfl, .inl rfl⟩
    · split
      · exact .inl ⟨_, rfl⟩
      · split
        · rename_i hnode
          exact .inr ⟨fs, _, made, rfl, hp.concat (fun _ hl => hl) hnode, rfl, .inl rfl⟩
        · exact .inl ⟨_, rfl⟩
        · rename_i hnone
          split
          · exact .inl ⟨_, rfl⟩
          · have hfree : fs.node? (location ++ [name]) ≠ some .directory := by simp [hnone]
            have hnew : (fs.put (location ++ [name]) .directory).node? (location ++ [name]) =
                some .directory := node?_put (by simp) fs _
            exact .inr ⟨_, _, true, rfl, hp.concat (fun _ => directory_put hfree _) hnew, rfl,
              .inr ⟨hnone, rfl⟩⟩

/-- Names lead as far as directories were made for them. -/
theorem follow_of_makeFrom {made : Bool} (hp : fs.Paved location)
    (h : fs.makeFrom location made names = (.ok (), fs')) :
    ∃ d, fs'.follow location names = .ok d ∧ fs'.node? d = some .directory := by
  induction names generalizing fs location made with
  | nil =>
    cases h
    exact ⟨location, rfl, hp location (List.prefix_refl _)⟩
  | cons name names ih =>
    have hlocation := kept_of_makeFrom h (hp location (List.prefix_refl _))
    rcases makeFrom_cons made name names hp with ⟨e, hstop⟩ | ⟨fs₁, next, made', hnext, hp₁, hrest, -⟩
    · cases hstop.symm.trans h
    · obtain ⟨d, hf, hd⟩ := ih hp₁ (hrest.symm.trans h)
      exact ⟨d, follow_cons_eq_ok_iff.2 ⟨hlocation, next, hnext, hf⟩, hd⟩

theorem makeDirs_eq_ok (h : fs.makeDirs path = (.ok (), fs')) : path = "" ∧ fs' = fs ∨
    pathFault path = none ∧ fs.makeFrom [] false (Path.names path) = (.ok (), fs') := by
  unfold makeDirs at h
  split at h
  · rename_i hempty
    exact .inl ⟨String.isEmpty_iff.1 hempty, (congrArg Prod.snd h).symm⟩
  · split at h
    · cases h
    · exact .inr ⟨‹_›, h⟩

theorem follow_of_makeDirs (h : fs.makeDirs path = (.ok (), fs')) :
    ∃ d, fs'.follow [] (Path.names path) = .ok d ∧ fs'.node? d = some .directory := by
  rcases makeDirs_eq_ok h with ⟨rfl, rfl⟩ | ⟨-, h⟩
  · exact ⟨[], rfl, rfl⟩
  · refine follow_of_makeFrom (fun l hl => ?_) h
    obtain rfl := List.prefix_nil.1 hl
    rfl

theorem follow_cons_of_directory {name : String} (h : fs.node? location = some .directory) :
    fs.follow location (name :: names) = match enter location name with
      | none => .error .nameTooLong
      | some next => fs.follow next names := by
  simp only [follow, h, enter]
  split_ifs <;> rfl

/-- Where more has been added, names lead where they led before, if anywhere. -/
theorem follow_of_kept (hkept : ∀ l node, fs.node? l = some node → fs'.node? l = some node)
    (h : fs'.follow location names = .ok l) :
    fs.follow location names = .ok l ∨ fs.follow location names = .error .notFound := by
  induction names generalizing location with
  | nil => exact .inl h
  | cons name names ih =>
    obtain ⟨hd, next, hnext, hrest⟩ := follow_cons_eq_ok_iff.1 h
    cases hnode : fs.node? location with
    | none => exact .inr (by simp [follow, hnode])
    | some node =>
      obtain rfl : node = .directory := by
        rw [hkept _ _ hnode] at hd
        exact Option.some.inj hd
      rw [follow_cons_of_directory hnode, hnext]
      exact ih hrest

/-- A file for which there is a free place once directories are made is not to be found before. -/
theorem not_found_of_free (hl : (fs.makeDirs dir).2.Leads path l)
    (hfree : (fs.makeDirs dir).2.node? l = none) :
    fs.read path = .error .notFound ∧ fs.probe path = .ok false := by
  have hkept : ∀ l node, fs.node? l = some node → (fs.makeDirs dir).2.node? l = some node :=
    fun _ _ => node?_makeDirs
  rcases follow_of_kept hkept hl.follow with hf | hf
  · have hbefore : fs.Leads path l := ⟨hl.noFault, hl.noSlash, hf⟩
    have hnone : fs.node? l = none := by
      cases hnode : fs.node? l with
      | none => rfl
      | some node =>
        rw [hkept _ _ hnode] at hfree
        cases hfree
    simp [read, probe, hbefore.locate, hnone]
  · simp [read, probe, locate, hl.noFault, hf]

/-! ## New content -/

section
variable {content content' : List UInt8}

theorem ne_root_of_file (hl : fs.node? l = some (.file content)) : l ≠ [] := by
  rintro rfl
  cases hl

/-- New content for a file does not change where names lead. -/
theorem follow_put_file (hl : fs.node? l = some (.file content)) :
    (fs.put l (.file content')).follow location names = fs.follow location names := by
  induction names generalizing location with
  | nil => rfl
  | cons name names ih =>
    by_cases hlocation : location = l
    · subst hlocation
      simp [follow, hl, node?_put (ne_root_of_file hl)]
    · simp only [follow, node?_put_of_ne hlocation, ih]

theorem locate_put_file (hl : fs.node? l = some (.file content)) :
    (fs.put l (.file content')).locate path = fs.locate path := by
  simp only [locate, follow_put_file hl]
  split
  · rfl
  · split
    · rfl
    · rename_i location _
      by_cases hlocation : location = l
      · subst hlocation
        simp [hl, node?_put (ne_root_of_file hl)]
      · rw [node?_put_of_ne hlocation]

theorem read_put_of_ne (hl : fs.node? l = some (.file content)) (hpath : ¬fs.Leads path l) :
    (fs.put l (.file content')).read path = fs.read path := by
  simp only [read, locate_put_file hl]
  cases hlocate : fs.locate path with
  | error e => rfl
  | ok location =>
    have hlocation : location ≠ l := by
      rintro rfl
      have hread : fs.read path = .ok content := by simp only [read, hlocate, hl]
      obtain ⟨l, hleads, -⟩ := read_eq_ok_iff.1 hread
      cases hlocate.symm.trans hleads.locate
      exact hpath hleads
    simp only [node?_put_of_ne hlocation]

end

end FileSystem

end BuildFleet
