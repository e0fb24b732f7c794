import BuildFleet.Json.Number
import BuildFleet.Json.Skip
import BuildFleet.Json.Text
import BuildFleet.Table
/-!
# Decoding JSON

Readers for the values that records are made of, and `Record`, which reads a record from an object
with named members in any order or from a list with the members in their declared order. Members
that a record does not know are skipped. A member may occur once; a table keeps the last value of
each key.
-/
namespace BuildFleet.Json

/-! ## Values -/

def word : List UInt8 → List UInt8 → Except Fault (List UInt8)
  | [], text => .ok text
  | _ :: _, [] => .error ⟨.eofInValue, 0⟩
  | letter :: letters, b :: rest =>
    if b = letter then word letters rest else .error ⟨.expectedWord, rest.length⟩

/-- The fault of a value that is not of the expected kind. The value is read as far as it takes to
name it: a list or an object is named at its opening. -/
def wrongType {α : Type} (expected : String) (text : List UInt8) : Except Fault α :=
  let found (value : Found) (rest : List UInt8) : Except Fault α :=
    .error ⟨.wrongType value expected, rest.length⟩
  match text with
  | [] => faultHere .eofInValue []
  | b :: rest =>
    if b = 110 then do found .null (← word [117, 108, 108] rest)
    else if b = 116 then do found (.boolean true) (← word [114, 117, 101] rest)
    else if b = 102 then do found (.boolean false) (← word [97, 108, 115, 101] rest)
    else if b = 45 ∨ isDigit b then do
      let (n, rest) ← number (b :: rest)
      found n.found rest
    else if b = 34 then do
      let (s, rest) ← textAfterQuote rest
      found (.text s) rest
    else if b = 91 then found .sequence (b :: rest)
    else if b = 123 then found .map (b :: rest)
    else faultHere .expectedValue (b :: rest)

def boolean : Reader Bool := fun text =>
  match skipSpace text with
  | 116 :: rest => do return (true, ← word [114, 117, 101] rest)
  | 102 :: rest => do return (false, ← word [97, 108, 115, 101] rest)
  | text => wrongType "a boolean" text

/-- Reads an integer of the kind that `convert` admits. -/
def integerOf {α : Type} (expected : String) (convert : Number → Option α) : Reader α :=
  fun text =>
    match skipSpace text with
    | [] => faultHere .eofInValue []
    | b :: rest =>
      if b = 45 ∨ isDigit b then do
        let (n, rest) ← number (b :: rest)
        match convert n, n with
        | some x, _ => return (x, rest)
        | none, .floating .. => .error ⟨.wrongType n.found expected, rest.length⟩
        | none, _ => .error ⟨.wrongValue n.found expected, rest.length⟩
      else wrongType expected (b :: rest)

def unsigned32 : Reader UInt32 := integerOf "u32" fun
  | .natural n => if n < UInt32.size then some (UInt32.ofNat n) else none
  | _ => none

def signed64 : Reader Int64 := integerOf "i64" fun
  | .natural n => if n < 0x8000000000000000 then some (Int64.ofNat n) else none
  | .negative n => some (-Int64.ofNat n)
  | .floating .. => none

def text : Reader String := fun bytes =>
  match skipSpace bytes with
  | 34 :: rest => textAfterQuote rest
  | bytes => wrongType "a string" bytes

/-- Reads a value or `null`. -/
def nullable {α : Type} (item : Reader α) : Reader (Option α) := fun text =>
  match skipSpace text with
  | 110 :: rest => do return (none, ← word [117, 108, 108] rest)
  | text => do
    let (x, rest) ← item text
    return (some x, rest)

/-! ## Lists and objects -/

/-- Moves to the next element of a list; `none` at the closing bracket, which stays. -/
def nextElement (isFirst : Bool) (text : List UInt8) :
    Except Fault (Option (List UInt8) × List UInt8) :=
  match skipSpace text with
  | [] => faultHere .eofInList []
  | b :: rest =>
    if b = 93 then .ok (none, b :: rest)
    else if isFirst then .ok (some (b :: rest), b :: rest)
    else if b = 44 then
      match skipSpace rest with
      | [] => faultHere .eofInValue []
      | b :: rest =>
        if b = 93 then faultHere .trailingComma (b :: rest)
        else .ok (some (b :: rest), b :: rest)
    else faultHere .expectedCommaOrBracket (b :: rest)

def closeList (text : List UInt8) : Except Fault (List UInt8) :=
  match skipSpace text with
  | [] => faultHere .eofInList []
  | b :: rest =>
    if b = 93 then .ok rest
    else if b = 44 then
      match skipSpace rest with
      | 93 :: rest => faultHere .trailingComma (93 :: rest)
      | rest => faultHere .trailingCharacters rest
    else faultHere .trailingCharacters (b :: rest)

/-- Moves to the next key of an object, past its opening quote; `none` at the closing brace, which
stays. -/
def nextKey (isFirst : Bool) (text : List UInt8) :
    Except Fault (Option (List UInt8) × List UInt8) :=
  match skipSpace text with
  | [] => faultHere .eofInObject []
  | b :: rest =>
    if b = 125 then .ok (none, b :: rest)
    else if isFirst then
      if b = 34 then .ok (some rest, rest) else faultHere .expectedKey (b :: rest)
    else if b = 44 then
      match skipSpace rest with
      | [] => faultHere .eofInValue []
      | b :: rest =>
        if b = 34 then .ok (some rest, rest)
        else if b = 125 then faultHere .trailingComma (b :: rest)
        else faultHere .expectedKey (b :: rest)
    else faultHere .expectedCommaOrBrace (b :: rest)

def colon (text : List UInt8) : Except Fault (List UInt8) :=
  match skipSpace text with
  | [] => faultHere .eofInObject []
  | b :: rest => if b = 58 then .ok rest else faultHere .expectedColon (b :: rest)

/-- A fault of a list or object as a whole. It is placed after the closing byte, if that comes
next. -/
def refuse {α : Type} (close : UInt8) (reason : Reason) (text : List UInt8) : Except Fault α :=
  match skipSpace text with
  | [] => .error ⟨reason, 0⟩
  | b :: rest => .error ⟨reason, if b = close then rest.length else rest.length + 1⟩

/-- The elements of a list after its opening bracket. Each takes at least a byte, so the length of
the text bounds their number. -/
def elements {α : Type} (item : Reader α) (bound : Nat) (isFirst : Bool) : Reader (List α) :=
  fun text =>
    match bound with
    | 0 => faultHere .eofInList text
    | bound + 1 => do
      match ← nextElement isFirst text with
      | (none, rest) => return ([], ← closeList rest)
      | (some start, _) =>
        let (x, rest) ← item start
        let (xs, rest) ← elements item bound false rest
        return (x :: xs, rest)

def list {α : Type} (item : Reader α) : Reader (List α) := fun text =>
  match skipSpace text with
  | 91 :: rest => elements item (rest.length + 1) true rest
  | text => wrongType "a sequence" text

/-! ## Tables -/

/-- The entries of a table after its opening brace, added to those read before. -/
def tableEntries {α : Type} (item : Reader α) (bound : Nat) (isFirst : Bool) (t : Table α) :
    Reader (Table α) := fun text =>
  match bound with
  | 0 => faultHere .eofInObject text
  | bound + 1 => do
    match ← nextKey isFirst text with
    | (none, rest) => return (t, rest.drop 1)
    | (some start, _) =>
      let (key, rest) ← textAfterQuote start
      let (x, rest) ← item (← colon rest)
      tableEntries item bound false (t.insert key x) rest

def table {α : Type} (item : Reader α) : Reader (Table α) := fun text =>
  match skipSpace text with
  | 123 :: rest => tableEntries item (rest.length + 1) true .empty rest
  | text => wrongType "a map" text

/-! ## Records -/

/-- A member of a record that is being filled. -/
structure Member (σ : Type) where
  key : String
  /-- There is no value for the member to take by default. -/
  isRequired : Bool
  isSet : σ → Bool
  read : Reader (σ → σ)

/-- The member that a field of the state stands for. -/
def Member.ofField {σ β : Type} (key : String) (isRequired : Bool) (item : Reader β)
    (get : σ → Option β) (set : β → σ → σ) : Member σ where
  key := key
  isRequired := isRequired
  isSet state := (get state).isSome
  read text := do
    let (x, rest) ← item text
    return (set x, rest)

/-- How a record is read: its name, its members in order, the state with no member set, and the
record that a state stands for. -/
structure Record (σ α : Type) where
  name : String
  members : List (Member σ)
  blank : σ
  build : σ → α

namespace Record

variable {σ α : Type}

/-- The name as messages have it. -/
def kind (r : Record σ α) : String := "struct " ++ r.name

/-- The name and the number of members, as messages about a list have it. -/
def kindOfList (r : Record σ α) : String :=
  let n := r.members.length
  r.kind ++ " with " ++ toString n ++ (if n = 1 then " element" else " elements")

def missing (r : Record σ α) (state : σ) : Option (Member σ) :=
  r.members.find? fun m => m.isRequired && !m.isSet state

def fromObject (r : Record σ α) (bound : Nat) (isFirst : Bool) (state : σ) : Reader α :=
  fun text =>
    match bound with
    | 0 => faultHere .eofInObject text
    | bound + 1 => do
      match ← nextKey isFirst text with
      | (none, rest) =>
        match r.missing state with
        | some m => refuse 125 (.missingField m.key) rest
        | none => return (r.build state, rest.drop 1)
      | (some start, _) =>
        let (key, rest) ← textAfterQuote start
        match r.members.find? (·.key == key) with
        | none => fromObject r bound false state (← skipValue (← colon rest))
        | some m =>
          if m.isSet state then refuse 125 (.duplicateField key) rest
          else
            let (set, rest) ← m.read (← colon rest)
            fromObject r bound false (set state) rest

/-- The members of a list after its opening bracket, from position `taken` on. A list that is too
short leaves the members after it at their defaults. -/
def fromList (r : Record σ α) (taken : Nat) (state : σ) : List (Member σ) → Reader α
  | [], text => do return (r.build state, ← closeList text)
  | m :: ms, text => do
    match ← nextElement (taken == 0) text with
    | (none, rest) =>
      if m.isRequired then refuse 93 (.wrongLength taken r.kindOfList) rest
      else fromList r (taken + 1) state ms rest
    | (some start, _) =>
      let (set, rest) ← m.read start
      fromList r (taken + 1) (set state) ms rest

def read (r : Record σ α) : Reader α := fun text =>
  match skipSpace text with
  | [] => faultHere .eofInValue []
  | 91 :: rest => fromList r 0 r.blank r.members rest
  | 123 :: rest => fromObject r (rest.length + 1) true r.blank rest
  | text => wrongType r.kind text

end Record

/-- Reads a whole text: nothing but white space may follow the value. -/
def decode {α : Type} (reader : Reader α) (text : List UInt8) : Except Fault α :=
  match reader text with
  | .error fault => .error fault
  | .ok (x, rest) =>
    match skipSpace rest with
    | [] => .ok x
    | rest => faultHere .trailingCharacters rest

end BuildFleet.Json
