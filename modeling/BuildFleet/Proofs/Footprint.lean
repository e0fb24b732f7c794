import BuildFleet.Proofs.Directory
import BuildFleet.Proofs.FileProgram
/-!
# Programs that keep to one file

What a program names in its operations bounds what it can change. Writing changes the file that a path leads
to, and making directories adds those that are missing on the way (`ChangedOnly.write`,
`ChangedOnly.makeDirs`); changes in a row are of the same kind (`ChangedOnly.trans`). So a program that names
one file and one directory (`UsesOnly`) changes nothing but that file, and makes nothing but directories on
the way to that directory, however its run ends (`UsesOnly.changedOnly`).
-/
namespace BuildFleet

namespace FileSystem

variable {fs fs' before between after : FileSystem} {file dir path name : String}
  {location next l : Location} {names : List String}

/-! ## On the way to a directory -/

/-- The first few of the names lead to the location. -/
def OnTheWay (fs : FileSystem) (location : Location) (names : List String) (l : Location) : Prop :=
  ∃ way, way <+: names ∧ fs.follow location way = .ok l

theorem OnTheWay.here (fs : FileSystem) (location : Location) (names : List String) :
    fs.OnTheWay location names location :=
  ⟨[], List.nil_prefix, rfl⟩

theorem OnTheWay.cons (h : fs.OnTheWay next names l) (hd : fs.node? location = some .directory)
    (hnext : enter location name = some next) : fs.OnTheWay location (name :: names) l := by
  obtain ⟨way, hway, hf⟩ := h
  exact ⟨name :: way, List.cons_prefix_cons.2 ⟨rfl, hway⟩,
    follow_cons_eq_ok_iff.2 ⟨hd, next, hnext, hf⟩⟩

theorem OnTheWay.of_directories (h : fs.OnTheWay location names l)
    (hd : ∀ l, fs.node? l = some .directory → fs'.node? l = some .directory) :
    fs'.OnTheWay location names l := by
  obtain ⟨way, hway, hf⟩ := h
  exact ⟨way, hway, follow_of_directories hd hf⟩

/-- Whether making directories succeeds or not, what is new is a directory on the way. -/
theorem made_of_makeFrom {made : Bool} (hp : fs.Paved location)
    (h : (fs.makeFrom location made names).2 = fs') (l : Location) :
    fs'.node? l = fs.node? l ∨
      fs.node? l = none ∧ fs'.node? l = some .directory ∧ fs'.OnTheWay location names l := by
  induction names generalizing fs location made with
  | nil =>
    cases h
    exact .inl rfl
  | cons name names ih =>
    have hlocation : fs'.node? location = some .directory :=
      h ▸ node?_makeFrom (hp location (List.prefix_refl _))
    rcases makeFrom_cons made name names hp with ⟨e, hstop⟩ | ⟨fs₁, next, made', hnext, hp₁, hrest, hfs₁⟩
    · rw [hstop] at h
      exact .inl (h ▸ rfl)
    · rw [hrest] at h
      -- The rest is made in files that are as before, but for a directory where the first name leads.
      rcases ih hp₁ h with hsame | ⟨hnone, hmade, hway⟩
      · rcases hfs₁ with rfl | ⟨hfree, rfl⟩
        · exact .inl hsame
        · by_cases hl : l = next
          · subst hl
            have hroot : l ≠ [] := by
              rintro rfl
              cases hfree
            exact .inr ⟨hfree, hsame.trans (node?_put hroot fs _),
              (OnTheWay.here fs' l names).cons hlocation hnext⟩
          · exact .inl (hsame.trans (node?_put_of_ne hl fs _))
      · refine .inr ⟨?_, hmade, hway.cons hlocation hnext⟩
        rcases hfs₁ with rfl | ⟨hfree, rfl⟩
        · exact hnone
        · by_cases hl : l = next
          · exact hl ▸ hfree
          · rwa [node?_put_of_ne hl] at hnone

/-! ## Changes -/

/-- What may happen to a location when a program uses one file and one directory. -/
inductive Change (file dir : String) (before after : FileSystem) (l : Location) : Prop where
  | same (h : after.node? l = before.node? l)
  /-- The path of the file leads there, and the file was written. -/
  | written (hl : after.Leads file l) (hd : before.node? l ≠ some .directory)
    (h : ∃ content, after.node? l = some (.file content))
  /-- A directory was missing there on the way to the directory, and was made. -/
  | made (hn : before.node? l = none) (h : after.node? l = some .directory)
    (hway : after.OnTheWay [] (Path.names dir) l)

/-- Nothing but the file was written, and nothing but the directory made. -/
def ChangedOnly (file dir : String) (before after : FileSystem) : Prop :=
  ∀ l, Change file dir before after l

namespace ChangedOnly

theorem refl (file dir : String) (fs : FileSystem) : ChangedOnly file dir fs fs :=
  fun _ => .same rfl

theorem write (file dir : String) (content : List UInt8) (fs : FileSystem) :
    ChangedOnly file dir fs (fs.write file content).2 := by
  intro l
  cases hwrite : fs.write file content with
  | mk result after =>
    cases result with
    | error e =>
      have hsame := write_eq_of_error (congrArg Prod.fst hwrite)
      rw [hwrite] at hsame
      exact .same (hsame ▸ rfl)
    | ok =>
      obtain ⟨place, hleads, hd, rfl⟩ := write_eq_ok_iff.1 hwrite
      by_cases hl : l = place
      · subst hl
        have hroot : l ≠ [] := by
          rintro rfl
          exact hd rfl
        exact .written (hleads.put hd _) hd ⟨content, node?_put hroot fs _⟩
      · exact .same (node?_put_of_ne hl fs _)

theorem makeDirs (file dir : String) (fs : FileSystem) :
    ChangedOnly file dir fs (fs.makeDirs dir).2 := by
  intro l
  unfold FileSystem.makeDirs
  split
  · exact .same rfl
  · split
    · exact .same rfl
    · have hroot : fs.Paved [] := fun l hl => by
        obtain rfl := List.prefix_nil.1 hl
        rfl
      rcases made_of_makeFrom hroot rfl l with hsame | ⟨hnone, hmade, hway⟩
      · exact .same hsame
      · exact .made hnone hmade hway

theorem directory (h : ChangedOnly file dir before after) (l : Location)
    (hl : before.node? l = some .directory) : after.node? l = some .directory := by
  cases h l with
  | same h => exact h.trans hl
  | written _ hd => exact absurd hl hd
  | made _ h => exact h

theorem trans (h : ChangedOnly file dir before between) (h' : ChangedOnly file dir between after) :
    ChangedOnly file dir before after := by
  intro l
  cases h' l with
  | same hsame =>
    cases h l with
    | same h => exact .same (hsame.trans h)
    | written hl hd h => exact .written (hl.of_directories h'.directory) hd (hsame ▸ h)
    | made hn h hway => exact .made hn (hsame.trans h) (hway.of_directories h'.directory)
  | written hl hd hfile => exact .written hl (fun hbefore => hd (h.directory l hbefore)) hfile
  | made hn hmade hway =>
    refine .made ?_ hmade hway
    cases h l with
    | same h => exact h.symm.trans hn
    | written _ _ h =>
      obtain ⟨content, h⟩ := h
      cases hn.symm.trans h
    | made _ h => cases hn.symm.trans h

end ChangedOnly

end FileSystem

namespace FileProgram

variable {α β : Type} {file dir : String} {p : FileProgram α}

/-- The program looks for, reads and writes no file but the one at the given path, and makes no directory
but the given one. -/
def UsesOnly (file dir : String) : FileProgram α → Prop
  | done _ => True
  | probe path next => path = file ∧ ∀ answer, UsesOnly file dir (next answer)
  | read path next => path = file ∧ ∀ answer, UsesOnly file dir (next answer)
  | makeDirs path next => path = dir ∧ ∀ answer, UsesOnly file dir (next answer)
  | write path _ next => path = file ∧ ∀ answer, UsesOnly file dir (next answer)

theorem UsesOnly.bind {k : α → FileProgram β} (h : p.UsesOnly file dir)
    (hk : ∀ a, (k a).UsesOnly file dir) : (p.bind k).UsesOnly file dir := by
  induction p with
  | done a => exact hk a
  | probe path next ih => exact ⟨h.1, fun answer => ih answer (h.2 answer)⟩
  | read path next ih => exact ⟨h.1, fun answer => ih answer (h.2 answer)⟩
  | makeDirs path next ih => exact ⟨h.1, fun answer => ih answer (h.2 answer)⟩
  | write path content next ih => exact ⟨h.1, fun answer => ih answer (h.2 answer)⟩

/-- However a run ends, it has changed nothing else. -/
theorem UsesOnly.changedOnly (h : p.UsesOnly file dir) (fs : FileSystem) :
    FileSystem.ChangedOnly file dir fs (p.run fs).2 := by
  induction p generalizing fs with
  | done a => exact .refl file dir fs
  | probe path next ih => exact ih _ (h.2 _) fs
  | read path next ih => exact ih _ (h.2 _) fs
  | makeDirs path next ih =>
    obtain ⟨rfl, hnext⟩ := h
    exact (FileSystem.ChangedOnly.makeDirs file path fs).trans (ih _ (hnext _) _)
  | write path content next ih =>
    obtain ⟨rfl, hnext⟩ := h
    exact (FileSystem.ChangedOnly.write path dir content fs).trans (ih _ (hnext _) _)

end FileProgram

end BuildFleet
