import BuildFleet.Json.Fault
/-!
# Skipping a JSON value

A value that nothing will be made of is checked for its shape only: texts are not decoded, so they
may hold malformed UTF-8 and lone surrogates, and nesting has no limit. The check is an automaton
that takes one byte at a time; its state holds the lists and objects that are open.
-/
namespace BuildFleet.Json

/-- An open list or object. -/
inductive Frame where
  | list
  | object
  deriving DecidableEq, Repr

/-- Where the check stands inside the innermost open list or object. -/
inductive Place where
  | value
  /-- A list or an object has just been opened and may be closed at once. -/
  | opened
  /-- A comma was taken inside an object. -/
  | key
  | colon
  | after
  /-- Letters of a word are missing. -/
  | word (letters : List UInt8)
  | text (isKey : Bool)
  | escape (isKey : Bool)
  | hex (isKey : Bool) (taken : Nat) (ok : Bool)
  | minus
  | zero
  | digits
  | point
  | fraction
  | exponent
  | exponentSign
  | exponentDigits
  deriving DecidableEq, Repr

structure SkipState where
  place : Place
  /-- What is open, innermost first. -/
  frames : List Frame
  deriving DecidableEq, Repr

inductive SkipStep where
  | next (state : SkipState)
  /-- The value ended before this byte. -/
  | ended
  | fault (reason : Reason)
  /-- A fault in front of this byte, which is not counted. -/
  | faultBefore (reason : Reason)

def startValue (frames : List Frame) (b : UInt8) : SkipStep :=
  if b = 110 then .next ⟨.word [117, 108, 108], frames⟩
  else if b = 116 then .next ⟨.word [114, 117, 101], frames⟩
  else if b = 102 then .next ⟨.word [97, 108, 115, 101], frames⟩
  else if b = 45 then .next ⟨.minus, frames⟩
  else if b = 48 then .next ⟨.zero, frames⟩
  else if isDigit b then .next ⟨.digits, frames⟩
  else if b = 34 then .next ⟨.text false, frames⟩
  else if b = 91 then .next ⟨.opened, .list :: frames⟩
  else if b = 123 then .next ⟨.opened, .object :: frames⟩
  else .fault .expectedValue

def startKey (frames : List Frame) (b : UInt8) : SkipStep :=
  if b = 34 then .next ⟨.text true, frames⟩ else .fault .expectedKey

/-- A byte right after the bracket or brace that opened the innermost frame. -/
def afterOpening (frames : List Frame) (b : UInt8) : SkipStep :=
  if isSpace b then .next ⟨.opened, frames⟩
  else match frames with
    | .list :: outer => if b = 93 then .next ⟨.after, outer⟩ else startValue frames b
    | .object :: outer => if b = 125 then .next ⟨.after, outer⟩ else startKey frames b
    | [] => .ended

def afterValue (frames : List Frame) (b : UInt8) : SkipStep :=
  match frames with
  | [] => .ended
  | .list :: outer =>
    if isSpace b then .next ⟨.after, frames⟩
    else if b = 44 then .next ⟨.value, frames⟩
    else if b = 93 then .next ⟨.after, outer⟩
    else .fault .expectedCommaOrBracket
  | .object :: outer =>
    if isSpace b then .next ⟨.after, frames⟩
    else if b = 44 then .next ⟨.key, frames⟩
    else if b = 125 then .next ⟨.after, outer⟩
    else .fault .expectedCommaOrBrace

def afterText (isKey : Bool) : Place := if isKey then .colon else .after

/-- A byte that may start the fraction or the exponent of a number. -/
def afterWhole (frames : List Frame) (b : UInt8) : SkipStep :=
  if b = 46 then .next ⟨.point, frames⟩
  else if b = 101 ∨ b = 69 then .next ⟨.exponent, frames⟩
  else afterValue frames b

def SkipState.step (state : SkipState) (b : UInt8) : SkipStep :=
  let frames := state.frames
  match state.place with
  | .value => if isSpace b then .next state else startValue frames b
  | .opened => afterOpening frames b
  | .key => if isSpace b then .next state else startKey frames b
  | .colon =>
    if isSpace b then .next state
    else if b = 58 then .next ⟨.value, frames⟩
    else .fault .expectedColon
  | .after => afterValue frames b
  | .word [] => afterValue frames b
  | .word [letter] => if b = letter then .next ⟨.after, frames⟩ else .fault .expectedWord
  | .word (letter :: letters) =>
    if b = letter then .next ⟨.word letters, frames⟩ else .fault .expectedWord
  | .text isKey =>
    if b = 34 then .next ⟨afterText isKey, frames⟩
    else if b = 92 then .next ⟨.escape isKey, frames⟩
    else if b < 32 then .faultBefore .controlCharacter
    else .next state
  | .escape isKey =>
    if b = 117 then .next ⟨.hex isKey 0 true, frames⟩
    else if [34, 92, 47, 98, 102, 110, 114, 116].contains b then .next ⟨.text isKey, frames⟩
    else .fault .invalidEscape
  | .hex isKey taken ok =>
    let digit := isDigit b || (97 ≤ b && b ≤ 102) || (65 ≤ b && b ≤ 70)
    if taken < 3 then .next ⟨.hex isKey (taken + 1) (ok && digit), frames⟩
    else if ok && digit then .next ⟨.text isKey, frames⟩
    else .fault .invalidEscape
  | .minus =>
    if b = 48 then .next ⟨.zero, frames⟩
    else if isDigit b then .next ⟨.digits, frames⟩
    else .fault .invalidNumber
  | .zero => if isDigit b then .fault .invalidNumber else afterWhole frames b
  | .digits => if isDigit b then .next state else afterWhole frames b
  | .point => if isDigit b then .next ⟨.fraction, frames⟩ else .fault .invalidNumber
  | .fraction =>
    if isDigit b then .next state
    else if b = 101 ∨ b = 69 then .next ⟨.exponent, frames⟩
    else afterValue frames b
  | .exponent =>
    if b = 43 ∨ b = 45 then .next ⟨.exponentSign, frames⟩
    else if isDigit b then .next ⟨.exponentDigits, frames⟩
    else .fault .invalidNumber
  | .exponentSign =>
    if isDigit b then .next ⟨.exponentDigits, frames⟩ else .fault .invalidNumber
  | .exponentDigits => if isDigit b then .next state else afterValue frames b

/-- Why the text must not end here; `none` when it may. -/
def SkipState.endFault (state : SkipState) : Option Reason :=
  let inside : Option Reason := match state.frames with
    | [] => none
    | .list :: _ => some .eofInList
    | .object :: _ => some .eofInObject
  match state.place with
  | .value | .word _ => some .eofInValue
  | .key | .colon => some .eofInObject
  | .text _ | .escape _ | .hex .. => some .eofInText
  | .minus | .point | .exponent | .exponentSign => some .invalidNumber
  | .opened | .after | .zero | .digits | .fraction | .exponentDigits => inside

/-- Runs the check and gives what follows the value. -/
def skipFrom (state : SkipState) : List UInt8 → Except Fault (List UInt8)
  | [] => match state.endFault with
    | some reason => .error ⟨reason, 0⟩
    | none => .ok []
  | b :: rest =>
    match state.step b with
    | .next state => skipFrom state rest
    | .ended => .ok (b :: rest)
    | .fault reason => .error ⟨reason, rest.length⟩
    | .faultBefore reason => .error ⟨reason, rest.length + 1⟩

def skipValue (text : List UInt8) : Except Fault (List UInt8) := skipFrom ⟨.value, []⟩ text

end BuildFleet.Json
