/-!
# Addresses

Which texts are addresses of a service: an absolute one, `scheme://authority` with a path and a
query after it, or an authority alone. A single path is an address too, of nothing in particular.
The host of an absolute address is a part of its authority (`host?`).
-/
namespace BuildFleet.Uri

inductive Shape where
  | absolute
  | authority
  | path
  deriving DecidableEq, Repr

def maxLength : Nat := 65534

def maxScheme : Nat := 64

/-- How many colons an authority may hold before a bracket or an `@` makes it forget them. -/
def maxColons : Nat := 8

def isAlphanumeric (b : UInt8) : Bool :=
  (48 ≤ b && b ≤ 57) || (65 ≤ b && b ≤ 90) || (97 ≤ b && b ≤ 122)

def isSchemeByte (b : UInt8) : Bool := isAlphanumeric b || b == 43 || b == 45 || b == 46 || b == 126

def isAuthorityByte (b : UInt8) : Bool :=
  isAlphanumeric b || [33, 36, 38, 39, 40, 41, 42, 43, 44, 45, 46, 59, 61, 95, 126].contains b

def isPathByte (b : UInt8) : Bool :=
  b == 0x21 || (0x24 ≤ b && b ≤ 0x3B) || b == 0x3D || (0x40 ≤ b && b ≤ 0x5F) ||
    (0x61 ≤ b && b ≤ 0x7A) || b == 0x7C || b == 0x7E || b == 34 || b == 123 || b == 125

def isQueryByte (b : UInt8) : Bool :=
  b == 0x21 || (0x24 ≤ b && b ≤ 0x3B) || b == 0x3D || (0x3F ≤ b && b ≤ 0x7E)

/-- What follows the scheme, if there is one; `none` when the scheme is too long. -/
def afterScheme (address : List UInt8) : Option (Bool × List UInt8) :=
  let scheme := address.takeWhile isSchemeByte
  match address.dropWhile isSchemeByte with
  | 58 :: 47 :: 47 :: rest =>
    if address.length ≤ 3 then some (false, address)
    else if maxScheme < scheme.length then none
    else some (true, rest)
  | _ => some (false, address)

/-- What an authority has shown so far. -/
structure Authority where
  colons : Nat := 0
  opened : Bool := false
  closed : Bool := false
  percent : Bool := false
  /-- The byte before was an `@`. -/
  atEnd : Bool := false

/-- An authority is complete: brackets match, at most one colon is left, escapes stand before an `@`
or inside brackets only, and something follows the `@`. -/
def Authority.isComplete (a : Authority) : Bool :=
  a.opened == a.closed && a.colons ≤ 1 && !a.atEnd && !a.percent

def readAuthority (a : Authority) : List UInt8 → Option (List UInt8)
  | [] => if a.isComplete then some [] else none
  | b :: rest =>
    if b = 47 ∨ b = 63 ∨ b = 35 then if a.isComplete then some (b :: rest) else none
    else if b = 58 then
      if maxColons ≤ a.colons then none
      else readAuthority { a with colons := a.colons + 1, atEnd := false } rest
    else if b = 91 then
      if a.percent || a.opened then none
      else readAuthority { a with opened := true, atEnd := false } rest
    else if b = 93 then
      if !a.opened || a.closed then none
      else readAuthority
        { a with closed := true, colons := 0, percent := false, atEnd := false } rest
    else if b = 64 then readAuthority { a with colons := 0, percent := false, atEnd := true } rest
    else if b = 37 then readAuthority { a with percent := true, atEnd := false } rest
    else if isAuthorityByte b then readAuthority { a with atEnd := false } rest
    else none

/-- Whether the bytes are a query, up to a fragment. -/
def isQuery : List UInt8 → Bool
  | [] => true
  | b :: rest => if b = 35 then true else isQueryByte b && isQuery rest

/-- Whether the bytes are a path with a query, up to a fragment. -/
def isPath : List UInt8 → Bool
  | [] => true
  | b :: rest =>
    if b = 63 then isQuery rest else if b = 35 then true else isPathByte b && isPath rest

def shape? (address : List UInt8) : Option Shape :=
  if address.isEmpty || maxLength < address.length then none
  else if address = [42] then some .path
  else if address.head? = some 47 then if isPath address then some .path else none
  else match afterScheme address with
    | none => none
    | some (false, _) =>
      if readAuthority {} address = some [] then some .authority else none
    | some (true, rest) =>
      match readAuthority {} rest with
      | none => none
      | some tail =>
        if tail.length = rest.length || !isPath tail then none else some .absolute

def endsAuthority (b : UInt8) : Bool := b == 47 || b == 63 || b == 35

/-- The host in an authority: what follows the last `@`, up to a colon. In brackets it may hold
colons, and the brackets belong to it. -/
def hostOf (authority : List UInt8) : List UInt8 :=
  let place := (authority.reverse.takeWhile (· ≠ 64)).reverse
  if place.head? = some 91 then place.takeWhile (· ≠ 93) ++ [93] else place.takeWhile (· ≠ 58)

def host? (address : List UInt8) : Option (List UInt8) :=
  match shape? address, afterScheme address with
  | some .absolute, some (true, rest) => some (hostOf (rest.takeWhile (!endsAuthority ·)))
  | _, _ => none

end BuildFleet.Uri
