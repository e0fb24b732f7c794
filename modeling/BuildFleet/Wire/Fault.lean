/-!
# Faults of a wire message

Why the bytes of a message cannot be read, and in which field that was found.
-/
namespace BuildFleet.Wire

inductive WireType where
  | varint
  | sixtyFourBit
  | lengthDelimited
  | startGroup
  | endGroup
  | thirtyTwoBit
  deriving DecidableEq, Repr

namespace WireType

def ofNumber : Nat → Option WireType
  | 0 => some varint
  | 1 => some sixtyFourBit
  | 2 => some lengthDelimited
  | 3 => some startGroup
  | 4 => some endGroup
  | 5 => some thirtyTwoBit
  | _ => none

def number : WireType → Nat
  | varint => 0
  | sixtyFourBit => 1
  | lengthDelimited => 2
  | startGroup => 3
  | endGroup => 4
  | thirtyTwoBit => 5

theorem ofNumber_number (w : WireType) : ofNumber w.number = some w := by cases w <;> rfl

def name : WireType → String
  | varint => "Varint"
  | sixtyFourBit => "SixtyFourBit"
  | lengthDelimited => "LengthDelimited"
  | startGroup => "StartGroup"
  | endGroup => "EndGroup"
  | thirtyTwoBit => "ThirtyTwoBit"

end WireType

inductive Reason where
  | bufferUnderflow
  | invalidVarint
  | invalidKey (value : Nat)
  | invalidWireType (value : Nat)
  | invalidTag
  | wrongWireType (found expected : WireType)
  | unexpectedEndGroup
  | tooDeep
  | lengthExceeded
  | invalidText
  deriving DecidableEq, Repr

def Reason.describe : Reason → String
  | bufferUnderflow => "buffer underflow"
  | invalidVarint => "invalid varint"
  | invalidKey value => "invalid key value: " ++ toString value
  | invalidWireType value => "invalid wire type value: " ++ toString value
  | invalidTag => "invalid tag value: 0"
  | wrongWireType found expected =>
    "invalid wire type: " ++ found.name ++ " (expected " ++ expected.name ++ ")"
  | unexpectedEndGroup => "unexpected end group tag"
  | tooDeep => "recursion limit reached"
  | lengthExceeded => "delimited length exceeded"
  | invalidText => "invalid string value: data is not UTF-8 encoded"

/-- A reason, and the fields it was found in, innermost first. -/
structure Fault where
  fields : List String
  reason : Reason
  deriving DecidableEq, Repr

def Fault.message (fault : Fault) : String :=
  "failed to decode Protobuf message: " ++ String.join (fault.fields.map (· ++ ": ")) ++
    fault.reason.describe

/-- A reader takes a value from the front of the bytes and gives what comes after it. -/
abbrev Reader (α : Type) := List UInt8 → Except Fault (α × List UInt8)

/-- A fault outside of any field. -/
def fail {α : Type} (reason : Reason) : Except Fault α := .error ⟨[], reason⟩

/-- Says in which field a fault was found. -/
def inField {α : Type} (field : String) : Except Fault α → Except Fault α
  | .ok x => .ok x
  | .error fault => .error { fault with fields := fault.fields ++ [field] }

end BuildFleet.Wire
