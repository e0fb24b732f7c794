import BuildFleet.Uri
/-!
# Server names

A secure connection checks who answers, so the host of its address must be a name that can be
checked: the name of a domain, or a number address.
-/
namespace BuildFleet.ServerName

def maxDomain : Nat := 253

def maxLabel : Nat := 63

def isDigit (b : UInt8) : Bool := 48 ≤ b && b ≤ 57

/-- The parts of a host that dots divide; there is always one. -/
def labels : List UInt8 → List (List UInt8)
  | [] => [[]]
  | b :: rest =>
    if b = 46 then [] :: labels rest
    else match labels rest with
      | [] => [[b]]
      | label :: others => (b :: label) :: others

/-- A label is made of letters, digits, underscores and hyphens, and no hyphen stands at an end. -/
def isLabel (label : List UInt8) : Bool :=
  !label.isEmpty && label.length ≤ maxLabel &&
    label.all (fun b => Uri.isAlphanumeric b || b == 45 || b == 95) &&
    label.head? != some 45 && label.getLast? != some 45

/-- The name of a domain: labels, of which the last is not a number. One dot may end the name. -/
def isDomain (host : List UInt8) : Bool :=
  let name := labels (if host.getLast? = some 46 then host.dropLast else host)
  host.length ≤ maxDomain && name.all isLabel && !name.getLast?.any (·.all isDigit)

/-- A number up to 255 without leading zeros. -/
def isOctet (digits : List UInt8) : Bool :=
  !digits.isEmpty && digits.length ≤ 3 && digits.all isDigit &&
    (digits.length = 1 || digits.head? != some 48) &&
    digits.foldl (fun n b => n * 10 + (b.toNat - 48)) 0 ≤ 255

/-- A number address: four numbers divided by dots. -/
def isNumberAddress (host : List UInt8) : Bool :=
  (labels host).length = 4 && (labels host).all isOctet

/-- A host whose identity can be checked. -/
def isValid (host : List UInt8) : Bool := isDomain host || isNumberAddress host

end BuildFleet.ServerName
