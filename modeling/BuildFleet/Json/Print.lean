import BuildFleet.Text.Utf8
/-!
# Printing JSON

Values in the compact form, without any white space, and in the pretty form, with two spaces for
each level. Texts keep their characters; only quotes, backslashes and controls are escaped.
-/
namespace BuildFleet.Json

inductive Value where
  | text (s : String)
  | natural (n : Nat)
  | boolean (b : Bool)
  | list (items : List Value)
  | object (members : List (String × Value))

def hexDigitByte (n : UInt8) : UInt8 := if n < 10 then 48 + n else 87 + n

def escapeByte (b : UInt8) : List UInt8 :=
  if b = 34 then [92, 34]
  else if b = 92 then [92, 92]
  else if 32 ≤ b then [b]
  else if b = 8 then [92, 98]
  else if b = 9 then [92, 116]
  else if b = 10 then [92, 110]
  else if b = 12 then [92, 102]
  else if b = 13 then [92, 114]
  else [92, 117, 48, 48, hexDigitByte (b / 16), hexDigitByte (b % 16)]

def quote (s : String) : List UInt8 := 34 :: (Utf8.encode s).flatMap escapeByte ++ [34]

/-- A line break and the white space that starts a line at a depth. -/
def lineAt (depth : Nat) : List UInt8 := 10 :: List.replicate (2 * depth) 32

/-- Pieces with commas between them, each on a line of its own at the given depth, closed one level
further out. Without pieces nothing is written. -/
def prettyItems (depth : Nat) (pieces : List (List UInt8)) : List UInt8 :=
  if pieces.isEmpty then []
  else ((pieces.map (lineAt (depth + 1) ++ ·)).intersperse [44]).flatten ++ lineAt depth

namespace Value

mutual

def compact : Value → List UInt8
  | text s => quote s
  | natural n => Utf8.encode (toString n)
  | boolean b => Utf8.encode (if b then "true" else "false")
  | list items => 91 :: ((compactList items).intersperse [44]).flatten ++ [93]
  | object members => 123 :: ((compactMembers members).intersperse [44]).flatten ++ [125]

def compactList : List Value → List (List UInt8)
  | [] => []
  | v :: vs => compact v :: compactList vs

def compactMembers : List (String × Value) → List (List UInt8)
  | [] => []
  | (k, v) :: ms => (quote k ++ 58 :: compact v) :: compactMembers ms

end

mutual

/-- The pretty form of a value that starts at the given depth. -/
def pretty (depth : Nat) : Value → List UInt8
  | text s => quote s
  | natural n => Utf8.encode (toString n)
  | boolean b => Utf8.encode (if b then "true" else "false")
  | list items => 91 :: prettyItems depth (prettyList (depth + 1) items) ++ [93]
  | object members => 123 :: prettyItems depth (prettyMembers (depth + 1) members) ++ [125]

def prettyList (depth : Nat) : List Value → List (List UInt8)
  | [] => []
  | v :: vs => pretty depth v :: prettyList depth vs

def prettyMembers (depth : Nat) : List (String × Value) → List (List UInt8)
  | [] => []
  | (k, v) :: ms => (quote k ++ 58 :: 32 :: pretty depth v) :: prettyMembers depth ms

end

end Value

end BuildFleet.Json
