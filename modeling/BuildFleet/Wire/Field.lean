import BuildFleet.Wire.Varint
import BuildFleet.Text.Utf8
/-!
# Fields of a wire message

A message is a sequence of fields. Each starts with a key, which holds the field's tag and the
layout of its value. A message merges its fields one after another, in any order, and skips those
whose tag it does not know, groups included.
-/
namespace BuildFleet.Wire

def key (tag : Nat) (layout : WireType) : List UInt8 := varint (tag * 8 + layout.number)

/-- Reads a key: a tag that is not zero, and a layout. -/
def readKey : Reader (Nat × WireType) := fun bytes => do
  let (n, rest) ← readVarint bytes
  if UInt32.size ≤ n then fail (.invalidKey n)
  else match WireType.ofNumber (n % 8) with
    | none => fail (.invalidWireType (n % 8))
    | some layout => if n / 8 = 0 then fail .invalidTag else return ((n / 8, layout), rest)

def expectLayout (expected found : WireType) : Except Fault Unit :=
  if found = expected then .ok () else fail (.wrongWireType found expected)

def take (length : Nat) : Reader (List UInt8) := fun bytes =>
  if bytes.length < length then fail .bufferUnderflow
  else .ok (bytes.take length, bytes.drop length)

def readDelimited : Reader (List UInt8) := fun bytes => do
  let (length, rest) ← readVarint bytes
  take length rest

def readNumber (layout : WireType) : Reader Nat := fun bytes => do
  expectLayout .varint layout
  readVarint bytes

def readText (layout : WireType) : Reader String := fun bytes => do
  expectLayout .lengthDelimited layout
  let (content, rest) ← readDelimited bytes
  match Utf8.decode? content with
  | some s => return (s, rest)
  | none => fail .invalidText

/-! ## Skipping -/

/-- The fields of a group up to its end, each skipped by `inner`. Each field takes at least a byte,
so the length of the bytes bounds their number. -/
def skipGroup (inner : Nat → WireType → List UInt8 → Except Fault (List UInt8)) (tag : Nat) :
    Nat → List UInt8 → Except Fault (List UInt8)
  | 0, _ => fail .invalidVarint
  | bound + 1, bytes => do
    let ((innerTag, layout), rest) ← readKey bytes
    if layout = .endGroup then
      if innerTag = tag then return rest else fail .unexpectedEndGroup
    else skipGroup inner tag bound (← inner innerTag layout rest)

/-- Skips the value of a field, through at most `levels` levels of groups. -/
def skipField : Nat → Nat → WireType → List UInt8 → Except Fault (List UInt8)
  | 0, _, _, _ => fail .tooDeep
  | levels + 1, tag, layout, bytes =>
    match layout with
    | .varint => do return (← readVarint bytes).2
    | .sixtyFourBit => do return (← take 8 bytes).2
    | .thirtyTwoBit => do return (← take 4 bytes).2
    | .lengthDelimited => do return (← readDelimited bytes).2
    | .startGroup => skipGroup (skipField levels) tag (bytes.length + 1) bytes
    | .endGroup => fail .unexpectedEndGroup

/-! ## Merging -/

/-- Merges one field, given its tag and layout, into a message. -/
abbrev Merge (μ : Type) := Nat → WireType → μ → Reader μ

/-- Merges fields until at most `stop` bytes are left. Each field takes at least a byte, so the
length of the bytes bounds their number. -/
def mergeFields {μ : Type} (merge : Merge μ) (stop : Nat) : Nat → μ → Reader μ
  | 0, m, bytes => .ok (m, bytes)
  | bound + 1, m, bytes =>
    if bytes.length ≤ stop then .ok (m, bytes)
    else do
      let ((tag, layout), rest) ← readKey bytes
      let (m, rest) ← merge tag layout m rest
      mergeFields merge stop bound m rest

/-- How many levels of groups and messages may be nested. -/
def maxLevels : Nat := 100

/-- Merges a message that is itself the value of a field. Its fields are read from all that is left,
and must end where its length says. -/
def mergeMessage {μ : Type} (merge : Merge μ) (layout : WireType) (m : μ) : Reader μ :=
  fun bytes => do
    expectLayout .lengthDelimited layout
    let (length, rest) ← readVarint bytes
    if rest.length < length then fail .bufferUnderflow
    else
      let stop := rest.length - length
      let (m, rest) ← mergeFields merge stop (rest.length + 1) m rest
      if rest.length = stop then return (m, rest) else fail .lengthExceeded

def decode {μ : Type} (merge : Merge μ) (blank : μ) (bytes : List UInt8) : Except Fault μ := do
  return (← mergeFields merge 0 (bytes.length + 1) blank bytes).1

/-! ## Writing -/

/-- A number field; zero, the default, is left out. -/
def numberField (tag n : Nat) : List UInt8 := if n = 0 then [] else key tag .varint ++ varint n

def delimitedField (tag : Nat) (content : List UInt8) : List UInt8 :=
  key tag .lengthDelimited ++ varint content.length ++ content

/-- A text field; the empty text, the default, is left out. -/
def textField (tag : Nat) (s : String) : List UInt8 :=
  if s.isEmpty then [] else delimitedField tag (Utf8.encode s)

end BuildFleet.Wire
