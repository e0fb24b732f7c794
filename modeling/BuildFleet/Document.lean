import BuildFleet.BuilderType
import BuildFleet.CreationRequest
import BuildFleet.Group
import BuildFleet.Json.Decode
import BuildFleet.Json.Print
/-!
# JSON documents of the domain

How instance ids, creation requests, builder types and groups are written as JSON and read back.
Reading checks the shape only: a blank id or a group name that could not be given to a new group is
read as it stands.
-/
namespace BuildFleet

namespace InstanceId

def toJson (id : InstanceId) : Json.Value := .text id.text

/-- An id is a bare text. -/
def reader : Json.Reader InstanceId := fun text => do
  let (s, rest) ← Json.text text
  return (⟨s⟩, rest)

end InstanceId

namespace CreationRequest

def toJson (r : CreationRequest) : Json.Value := .object [("builder_type", .text r.builderType)]

def record : Json.Record (Option String) CreationRequest where
  name := "CreationRequest"
  members := [.ofField "builder_type" true Json.text id fun x _ => some x]
  blank := none
  build state := ⟨state.getD ""⟩

end CreationRequest

namespace BuilderType

def toJson (b : BuilderType) : Json.Value := .object [
  ("name", .text b.name),
  ("is_reverse", .boolean b.isReverse),
  ("expect_num", .natural b.expectNum.toNat)]

/-- A builder type of which some members may not be known yet. -/
structure Draft where
  name : Option String := none
  isReverse : Option Bool := none
  expectNum : Option UInt32 := none

def record : Json.Record Draft BuilderType where
  name := "BuilderType"
  members := [
    .ofField "name" true Json.text Draft.name fun x d => { d with name := some x },
    .ofField "is_reverse" true Json.boolean Draft.isReverse fun x d =>
      { d with isReverse := some x },
    .ofField "expect_num" true Json.unsigned32 Draft.expectNum fun x d =>
      { d with expectNum := some x }]
  blank := {}
  build d := ⟨d.name.getD "", d.isReverse.getD false, d.expectNum.getD 0⟩

end BuilderType

namespace Group

def toJson (g : Group) : Json.Value := .object [
  ("name", .text g.name),
  ("instances", .list (g.instances.map .text))]

/-- A group of which some members may not be known yet. -/
structure Draft where
  name : Option String := none
  instances : Option (List String) := none

/-- A group without a list of instances is empty. -/
def record : Json.Record Draft Group where
  name := "Group"
  members := [
    .ofField "name" true Json.text Draft.name fun x d => { d with name := some x },
    .ofField "instances" false (Json.list Json.text) Draft.instances fun x d =>
      { d with instances := some x }]
  blank := {}
  build d := ⟨d.name.getD "", d.instances.getD []⟩

/-- The bytes that a group is kept as. -/
def document (g : Group) : List UInt8 := g.toJson.pretty 0

def ofDocument (bytes : List UInt8) : Except Json.Fault Group := Json.decode record.read bytes

end Group

end BuildFleet
