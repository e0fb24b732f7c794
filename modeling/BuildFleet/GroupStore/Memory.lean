import BuildFleet.Group
import BuildFleet.GroupStore.Error
import BuildFleet.Table
/-!
# Groups in memory (`InMemoryGroupStore`)

A store that keeps groups by name and counts how often a group was stored. Only creating checks a
name.
-/
namespace BuildFleet.GroupStore

/-- Groups by name (`InMemoryGroupStore`). -/
structure Memory where
  groups : Table Group
  /-- How many groups were stored so far. -/
  storeCalls : Nat

namespace Memory

def empty : Memory := ⟨.empty, 0⟩

def get? (m : Memory) (name : String) : Option Group := m.groups.get? name

def create (m : Memory) (name : String) : Except Error Group × Memory :=
  match Group.create name with
  | .error refusal => (.error (.invalid refusal), m)
  | .ok g =>
    match m.groups.get? name with
    | some _ => (.error (.alreadyExists name), m)
    | none => (.ok g, { m with groups := m.groups.insert name g })

def load (m : Memory) (name : String) : Except Error Group :=
  match m.groups.get? name with
  | some g => .ok g
  | none => .error (.notFound name)

def store (m : Memory) (g : Group) : Memory :=
  ⟨m.groups.insert g.name g, m.storeCalls + 1⟩

end Memory

end BuildFleet.GroupStore
