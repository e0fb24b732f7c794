import BuildFleet.Decimal.Shortest
import BuildFleet.Text.Quoted
/-!
# Faults of a JSON text

Why a text cannot be read, and where. A fault holds how many bytes of the text were left when it
was found, so that readers need no running position; `Fault.message` turns that into a line and a
column. Columns count bytes, and the byte that was looked at last is counted.
-/
namespace BuildFleet.Json

/-- What was found where something else was expected. -/
inductive Found where
  | null
  | boolean (b : Bool)
  | natural (n : Nat)
  /-- The number `-n`. -/
  | negative (n : Nat)
  /-- A number that is not an integer of 64 bits, with its sign. -/
  | floating (isNegative : Bool) (x : Binary64)
  | text (s : String)
  | sequence
  | map
  deriving DecidableEq, Repr

namespace Found

def describe : Found → String
  | null => "null"
  | boolean b => "boolean `" ++ (if b then "true" else "false") ++ "`"
  | natural n => "integer `" ++ toString n ++ "`"
  | negative n => "integer `-" ++ toString n ++ "`"
  | floating isNegative x => "floating point `" ++ (if isNegative then "-" else "") ++ x.render ++ "`"
  | text s => "string " ++ Text.quoted s
  | sequence => "sequence"
  | map => "map"

end Found

inductive Reason where
  | eofInList
  | eofInObject
  | eofInText
  | eofInValue
  | expectedColon
  | expectedCommaOrBracket
  | expectedCommaOrBrace
  | expectedWord
  | expectedValue
  | expectedKey
  | invalidEscape
  | invalidNumber
  | numberOutOfRange
  | invalidCodePoint
  | controlCharacter
  | loneSurrogate
  | unfinishedSurrogate
  | trailingComma
  | trailingCharacters
  | wrongType (found : Found) (expected : String)
  | wrongValue (found : Found) (expected : String)
  | wrongLength (length : Nat) (expected : String)
  | missingField (name : String)
  | duplicateField (name : String)
  deriving DecidableEq, Repr

namespace Reason

def describe : Reason → String
  | eofInList => "EOF while parsing a list"
  | eofInObject => "EOF while parsing an object"
  | eofInText => "EOF while parsing a string"
  | eofInValue => "EOF while parsing a value"
  | expectedColon => "expected `:`"
  | expectedCommaOrBracket => "expected `,` or `]`"
  | expectedCommaOrBrace => "expected `,` or `\x7d`"
  | expectedWord => "expected ident"
  | expectedValue => "expected value"
  | expectedKey => "key must be a string"
  | invalidEscape => "invalid escape"
  | invalidNumber => "invalid number"
  | numberOutOfRange => "number out of range"
  | invalidCodePoint => "invalid unicode code point"
  | controlCharacter => "control character (\\u0000-\\u001F) found while parsing a string"
  | loneSurrogate => "lone leading surrogate in hex escape"
  | unfinishedSurrogate => "unexpected end of hex escape"
  | trailingComma => "trailing comma"
  | trailingCharacters => "trailing characters"
  | wrongType found expected => "invalid type: " ++ found.describe ++ ", expected " ++ expected
  | wrongValue found expected => "invalid value: " ++ found.describe ++ ", expected " ++ expected
  | wrongLength length expected =>
    "invalid length " ++ toString length ++ ", expected " ++ expected
  | missingField name => "missing field `" ++ name ++ "`"
  | duplicateField name => "duplicate field `" ++ name ++ "`"

end Reason

/-- A reason, and the number of bytes left in the text where it was found. -/
structure Fault where
  reason : Reason
  left : Nat
  deriving DecidableEq, Repr

/-- The line after the given bytes, counted from one, and the bytes on it. -/
def lineAndColumn (consumed : List UInt8) : Nat × Nat :=
  (consumed.count 10 + 1, (consumed.reverse.takeWhile (· != 10)).length)

def Fault.message (fault : Fault) (text : List UInt8) : String :=
  let (line, column) := lineAndColumn (text.take (text.length - fault.left))
  fault.reason.describe ++ " at line " ++ toString line ++ " column " ++ toString column

/-- A reader takes a value from the front of a text and gives what comes after it. -/
abbrev Reader (α : Type) := List UInt8 → Except Fault (α × List UInt8)

/-- A fault at the first byte of `text`, which is counted. -/
def faultHere {α : Type} (reason : Reason) (text : List UInt8) : Except Fault α :=
  .error ⟨reason, text.length - 1⟩

/-- A fault before `text`. -/
def faultBefore {α : Type} (reason : Reason) (text : List UInt8) : Except Fault α :=
  .error ⟨reason, text.length⟩

def isSpace (b : UInt8) : Bool := b == 32 || b == 10 || b == 9 || b == 13

def skipSpace (text : List UInt8) : List UInt8 := text.dropWhile isSpace

def isDigit (b : UInt8) : Bool := 48 ≤ b && b ≤ 57

end BuildFleet.Json
