import BuildFleet.GroupStore.Files
import BuildFleet.GroupStore.Memory
/-!
# The group of an invocation (`resolve_group`)

A new group takes the place of the active one. Without either, instances are recorded in no group.
-/
namespace BuildFleet.GroupStore

/-- Which group an invocation records its instances in (`resolve_group`). -/
inductive Choice where
  | none
  | created (name : String)
  | loaded (name : String)
  deriving DecidableEq, Repr

namespace Choice

def of (active new : Option String) : Choice :=
  match new, active with
  | some name, _ => created name
  | .none, some name => loaded name
  | .none, .none => none

def fromMemory (m : Memory) : Choice → Except Error (Option Group) × Memory
  | none => (.ok .none, m)
  | created name => let (r, m) := m.create name; (r.map some, m)
  | loaded name => ((m.load name).map some, m)

def fromFiles (dir : String) : Choice → FileProgram (Except Error (Option Group))
  | none => .done (.ok .none)
  | created name => (Files.create dir name).bind fun r => .done (r.map some)
  | loaded name => (Files.load dir name).bind fun r => .done (r.map some)

end Choice

end BuildFleet.GroupStore
