import BuildFleet.FileSystem
/-!
# Programs on files

A sequence of single file operations, each of which depends on the answers to those before it. A
program runs against a file system at once (`run`) or one operation at a time (`step`), so that what
other programs do in between can be seen. `run_bind` says how programs in a row run.
-/
namespace BuildFleet

/-- File operations with a result at the end. -/
inductive FileProgram (α : Type) where
  | done (result : α)
  | probe (path : String) (next : Except IoError Bool → FileProgram α)
  | read (path : String) (next : Except IoError (List UInt8) → FileProgram α)
  | makeDirs (path : String) (next : Except IoError Unit → FileProgram α)
  | write (path : String) (content : List UInt8) (next : Except IoError Unit → FileProgram α)

namespace FileProgram

variable {α β : Type}

def step : FileProgram α → FileSystem → FileProgram α × FileSystem
  | done a, fs => (done a, fs)
  | probe path next, fs => (next (fs.probe path), fs)
  | read path next, fs => (next (fs.read path), fs)
  | makeDirs path next, fs => let (r, fs) := fs.makeDirs path; (next r, fs)
  | write path content next, fs => let (r, fs) := fs.write path content; (next r, fs)

def run : FileProgram α → FileSystem → α × FileSystem
  | done a, fs => (a, fs)
  | probe path next, fs => (next (fs.probe path)).run fs
  | read path next, fs => (next (fs.read path)).run fs
  | makeDirs path next, fs => let (r, fs) := fs.makeDirs path; (next r).run fs
  | write path content next, fs => let (r, fs) := fs.write path content; (next r).run fs

def bind : FileProgram α → (α → FileProgram β) → FileProgram β
  | done a, k => k a
  | probe path next, k => probe path fun r => (next r).bind k
  | read path next, k => read path fun r => (next r).bind k
  | makeDirs path next, k => makeDirs path fun r => (next r).bind k
  | write path content next, k => write path content fun r => (next r).bind k

theorem run_bind (p : FileProgram α) (k : α → FileProgram β) (fs : FileSystem) :
    (p.bind k).run fs = (k (p.run fs).1).run (p.run fs).2 := by
  induction p generalizing fs with
  | done a => rfl
  | probe path next ih => exact ih _ fs
  | read path next ih => exact ih _ fs
  | makeDirs path next ih => exact ih _ _
  | write path content next ih => exact ih _ _

instance : Monad FileProgram where
  pure := done
  bind := bind

end FileProgram

end BuildFleet
