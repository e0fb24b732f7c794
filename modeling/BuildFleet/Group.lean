import BuildFleet.InstanceId
/-!
# Groups (`Group`)

A named list of instances that are handled together. A group keeps its instances in the order in
which they were added and takes each one once (`insert_of_mem`, `insert_of_not_mem`). Its name becomes the
name of a file, so names that could be taken for a path are refused.
-/
namespace BuildFleet

structure Group where
  name : String
  instances : List String
  deriving DecidableEq, Repr

namespace Group

/-- Why a text cannot name a group, if it cannot (`validate_name`). -/
def nameRefusal (name : String) : Option Refusal :=
  if Text.isBlank name then some .blankGroupName
  else if name.toList.contains '/' || name.toList.contains '\\' || name == "." || name == ".." then
    some (.groupNameIsPath name)
  else none

def create (name : String) : Except Refusal Group :=
  match nameRefusal name with
  | some refusal => .error refusal
  | none => .ok ⟨name, []⟩

def contains (g : Group) (id : InstanceId) : Bool := g.instances.contains id.text

def size (g : Group) : Nat := g.instances.length

def isEmpty (g : Group) : Bool := g.instances.isEmpty

/-- Adds an instance at the end, unless the group lists it already. -/
def push (g : Group) (id : InstanceId) : Except Refusal Group :=
  if g.contains id then .error (.duplicateInstance g.name id.text)
  else .ok { g with instances := g.instances ++ [id.text] }

/-- Adds an instance if the group does not list it yet. -/
def insert (g : Group) (id : InstanceId) : Group :=
  match g.push id with
  | .ok g' => g'
  | .error _ => g

theorem insert_of_mem {g : Group} {id : InstanceId} (h : id.text ∈ g.instances) :
    g.insert id = g := by
  simp [insert, push, contains, h]

theorem insert_of_not_mem {g : Group} {id : InstanceId} (h : id.text ∉ g.instances) :
    g.insert id = ⟨g.name, g.instances ++ [id.text]⟩ := by
  simp [insert, push, contains, h]

@[simp] theorem insert_name (g : Group) (id : InstanceId) : (g.insert id).name = g.name := by
  by_cases h : id.text ∈ g.instances
  · rw [insert_of_mem h]
  · rw [insert_of_not_mem h]

end Group

end BuildFleet
