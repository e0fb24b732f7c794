/-!
# Builder types (`BuilderType`, `build_script_for`)

A kind of machine that instances can be made of, as the catalog advertises it, and the build
script that a machine of that kind runs.
-/
namespace BuildFleet

structure BuilderType where
  name : String
  /-- The machines are a fixed pool of registered ones, so capacity is limited. -/
  isReverse : Bool
  /-- How many machines to expect; zero when that is not known. -/
  expectNum : UInt32
  deriving DecidableEq, Repr

namespace BuilderType

/-- The remark on capacity (`capacity_note`); there is none where machines are made on demand. -/
def capacityNote (b : BuilderType) : Option String :=
  if !b.isReverse then none
  else if 0 < b.expectNum then
    some ("[limited capacity: " ++ toString b.expectNum.toNat ++ " machines]")
  else some "[limited capacity]"

def render (b : BuilderType) : String :=
  "  * " ++ b.name ++ match b.capacityNote with
    | some note => "   " ++ note
    | none => ""

end BuilderType

def Text.hasInfix (needle : List Char) : List Char → Bool
  | [] => needle.isEmpty
  | c :: rest => needle.isPrefixOf (c :: rest) || hasInfix needle rest

/-- The build script of a fresh instance (`build_script_for`): a batch file where the type names Windows. -/
def buildScript (builderType : String) : String :=
  if Text.hasInfix "windows".toList builderType.toList then "go/src/make.bat"
  else "go/src/make.bash"

end BuildFleet
