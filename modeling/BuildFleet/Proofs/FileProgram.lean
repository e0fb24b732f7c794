import BuildFleet.FileProgram
/-!
# Programs on files that others use

Between two operations of a program others may work on the same files. `Keeps` says what a program does
for all that as long as the others keep to something: it keeps to it too, and so much is true when it is
done (`Keeps.step`, `Keeps.bind`).
-/
namespace BuildFleet.FileProgram

variable {α β : Type} {inv : FileSystem → Prop} {post : α → FileSystem → Prop} {fs fs' : FileSystem}

/-- The next operation of a program, and then the rest, is the whole program. -/
theorem run_step (p : FileProgram α) (fs : FileSystem) :
    (p.step fs).1.run (p.step fs).2 = p.run fs := by
  cases p <;> rfl

/-- If the files satisfy `inv` whenever an operation begins, they do so when it ends; and `post` holds of
the result, and of the files as the last operation left them. A program without operations begins with
the given files. -/
def Keeps (inv : FileSystem → Prop) (post : α → FileSystem → Prop) :
    FileProgram α → FileSystem → Prop
  | done a, fs => post a fs
  | probe path next, _ => ∀ fs, inv fs → Keeps inv post (next (fs.probe path)) fs
  | read path next, _ => ∀ fs, inv fs → Keeps inv post (next (fs.read path)) fs
  | makeDirs path next, _ => ∀ fs, inv fs → inv (fs.makeDirs path).2 ∧
      Keeps inv post (next (fs.makeDirs path).1) (fs.makeDirs path).2
  | write path content next, _ => ∀ fs, inv fs → inv (fs.write path content).2 ∧
      Keeps inv post (next (fs.write path content).1) (fs.write path content).2

theorem Keeps.step {p : FileProgram α} (h : p.Keeps inv post fs) (hp : ∀ a, p ≠ done a)
    (hi : inv fs') : inv (p.step fs').2 ∧ (p.step fs').1.Keeps inv post (p.step fs').2 := by
  cases p with
  | done a => exact absurd rfl (hp a)
  | probe => exact ⟨hi, h _ hi⟩
  | read => exact ⟨hi, h _ hi⟩
  | makeDirs => exact h _ hi
  | write => exact h _ hi

theorem Keeps.bind {p : FileProgram α} {k : α → FileProgram β} {post' : β → FileSystem → Prop}
    (h : p.Keeps inv post fs) (hk : ∀ a fs, post a fs → (k a).Keeps inv post' fs) :
    (p.bind k).Keeps inv post' fs := by
  induction p generalizing fs with
  | done a => exact hk a fs h
  | probe path next ih => exact fun fs hi => ih _ (h fs hi)
  | read path next ih => exact fun fs hi => ih _ (h fs hi)
  | makeDirs path next ih => exact fun fs hi => ⟨(h fs hi).1, ih _ (h fs hi).2⟩
  | write path content next ih => exact fun fs hi => ⟨(h fs hi).1, ih _ (h fs hi).2⟩

theorem keeps_true (p : FileProgram α) (fs : FileSystem) :
    p.Keeps (fun _ => True) (fun _ _ => True) fs := by
  induction p generalizing fs with
  | done a => trivial
  | probe path next ih => exact fun fs _ => ih _ fs
  | read path next ih => exact fun fs _ => ih _ fs
  | makeDirs path next ih => exact fun fs _ => ⟨trivial, ih _ _⟩
  | write path content next ih => exact fun fs _ => ⟨trivial, ih _ _⟩

end BuildFleet.FileProgram
