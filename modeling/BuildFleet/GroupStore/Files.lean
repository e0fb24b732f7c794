import BuildFleet.Document
import BuildFleet.FileProgram
import BuildFleet.GroupStore.Error
/-!
# Groups in files (`FileGroupStore`)

A store that keeps each group as `<name>.json` in one directory. Creating a group looks for its file
first and then writes it, so what happens in between goes unnoticed.
-/
namespace BuildFleet.GroupStore

namespace Files

/-- The file of a group (`path_for`). -/
def pathOf (dir name : String) : String := Path.join dir (name ++ ".json")

def save (dir path : String) (g : Group) : FileProgram (Except Error Unit) :=
  .makeDirs dir fun
    | .error e => .done (.error (.io dir e))
    | .ok () => .write path g.document fun
      | .error e => .done (.error (.io path e))
      | .ok () => .done (.ok ())

/-- Creates an empty group, unless there is a file for it (`create_group`). -/
def create (dir name : String) : FileProgram (Except Error Group) :=
  match Group.create name with
  | .error refusal => .done (.error (.invalid refusal))
  | .ok g =>
    let path := pathOf dir name
    .probe path fun
      | .error e => .done (.error (.io path e))
      | .ok true => .done (.error (.alreadyExists name))
      | .ok false => (save dir path g).bind fun
        | .error e => .done (.error e)
        | .ok () => .done (.ok g)

/-- Loads the group that its file holds (`load_group`). -/
def load (dir name : String) : FileProgram (Except Error Group) :=
  match Group.nameRefusal name with
  | some refusal => .done (.error (.invalid refusal))
  | none =>
    let path := pathOf dir name
    .read path fun
      | .error .notFound => .done (.error (.notFound name))
      | .error e => .done (.error (.io path e))
      | .ok bytes => .done <| match Group.ofDocument bytes with
        | .ok g => .ok g
        | .error fault => .error (.unreadable path (fault.message bytes))

/-- Stores a group in the file that its name says (`store_group`). -/
def store (dir : String) (g : Group) : FileProgram (Except Error Unit) :=
  match Group.nameRefusal g.name with
  | some refusal => .done (.error (.invalid refusal))
  | none => save dir (pathOf dir g.name) g

end Files

end BuildFleet.GroupStore
