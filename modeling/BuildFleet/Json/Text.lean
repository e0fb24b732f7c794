import BuildFleet.Json.Fault
import BuildFleet.Text.Utf8
/-!
# Texts in JSON

Reading a text after its opening quote. The scan takes one byte at a time; the bytes it collects
are decoded when the closing quote is reached, so that a text which is cut short is reported as
that even if it is not well-formed UTF-8. How far the fault lies before the end is counted in
collected bytes, so it is the malformed byte itself unless escapes follow that byte.
-/
namespace BuildFleet.Json

/-- Where the scan of a text stands. -/
inductive TextState where
  | plain
  | escape
  /-- Inside `\uXXXX`: digits taken, their value, whether all of them were digits, and the high
  half of a surrogate pair that this is the low half of. -/
  | hex (taken value : Nat) (ok : Bool) (high : Option Nat)
  /-- After the high half of a pair, which a second `\u` must follow. -/
  | lowBackslash (high : Nat)
  | lowLetter (high : Nat)
  deriving DecidableEq, Repr

inductive TextStep where
  | closed
  | next (state : TextState) (written : List UInt8)
  | fault (reason : Reason)

def hexValue (b : UInt8) : Option Nat :=
  let n := b.toNat
  if 48 ≤ n ∧ n ≤ 57 then some (n - 48)
  else if 97 ≤ n ∧ n ≤ 102 then some (n - 87)
  else if 65 ≤ n ∧ n ≤ 70 then some (n - 55)
  else none

def codePointBytes (n : Nat) : List UInt8 := String.utf8EncodeChar (Char.ofNat n)

/-- A complete `\uXXXX`. -/
def hexDone (value : Nat) (high : Option Nat) : TextStep :=
  match high with
  | none =>
    if 0xDC00 ≤ value ∧ value ≤ 0xDFFF then .fault .loneSurrogate
    else if 0xD800 ≤ value ∧ value ≤ 0xDBFF then .next (.lowBackslash value) []
    else .next .plain (codePointBytes value)
  | some high =>
    if 0xDC00 ≤ value ∧ value ≤ 0xDFFF then
      .next .plain (codePointBytes (0x10000 + (high - 0xD800) * 0x400 + (value - 0xDC00)))
    else .fault .loneSurrogate

/-- What the letter after a backslash stands for. -/
def escapeLetter (b : UInt8) : TextStep :=
  if b = 34 ∨ b = 92 ∨ b = 47 then .next .plain [b]
  else if b = 98 then .next .plain [8]
  else if b = 102 then .next .plain [12]
  else if b = 110 then .next .plain [10]
  else if b = 114 then .next .plain [13]
  else if b = 116 then .next .plain [9]
  else if b = 117 then .next (.hex 0 0 true none) []
  else .fault .invalidEscape

def TextState.step : TextState → UInt8 → TextStep
  | plain, b =>
    if b = 34 then .closed
    else if b = 92 then .next .escape []
    else if b < 32 then .fault .controlCharacter
    else .next .plain [b]
  | escape, b => escapeLetter b
  | hex taken value ok high, b =>
    let value := value * 16 + (hexValue b).getD 0
    let ok := ok && (hexValue b).isSome
    if taken < 3 then .next (.hex (taken + 1) value ok high) []
    else if ok then hexDone value high
    else .fault .invalidEscape
  | lowBackslash high, b =>
    if b = 92 then .next (.lowLetter high) [] else .fault .unfinishedSurrogate
  | lowLetter high, b =>
    if b = 117 then .next (.hex 0 0 true (some high)) [] else .fault .unfinishedSurrogate

/-- Scans up to the closing quote, given the bytes written so far in reverse. -/
def scanText (held : List UInt8) (state : TextState) : Reader (List UInt8)
  | [] => .error ⟨.eofInText, 0⟩
  | b :: rest =>
    match state.step b with
    | .closed => .ok (held.reverse, rest)
    | .next state written => scanText (written.reverse ++ held) state rest
    | .fault reason => .error ⟨reason, rest.length⟩

/-- Reads a text whose opening quote has been taken. -/
def textAfterQuote : Reader String := fun start =>
  match scanText [] .plain start with
  | .error fault => .error fault
  | .ok (bytes, rest) =>
    match Utf8.decode? bytes with
    | some s => .ok (s, rest)
    | none =>
      .error ⟨.invalidCodePoint, rest.length + (bytes.length - Utf8.wellFormedLength bytes)⟩

end BuildFleet.Json
