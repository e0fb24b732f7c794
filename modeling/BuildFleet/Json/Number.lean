import BuildFleet.Json.Fault
/-!
# Numbers in JSON

Integers that fit 64 bits are kept exactly; every other number is a double. The digits of a number
go into a significand of 64 bits for as long as they fit; digits that no longer fit before the point
raise the power of ten, and after it they are dropped.
-/
namespace BuildFleet.Json

/-- A number as a text spells it. -/
inductive Number where
  | natural (n : Nat)
  /-- The number `-n`. -/
  | negative (n : Nat)
  | floating (isNegative : Bool) (x : Binary64)
  deriving DecidableEq, Repr

def Number.found : Number → Found
  | natural n => .natural n
  | negative n => .negative n
  | floating isNegative x => .floating isNegative x

def maxSignificand : Nat := UInt64.size - 1

/-- Takes digits into the significand while they fit, and counts them. -/
def absorb (significand : Nat) : List UInt8 → Nat × Nat
  | [] => (significand, 0)
  | d :: ds =>
    let next := significand * 10 + (d.toNat - 48)
    if next ≤ maxSignificand then
      let (s, taken) := absorb next ds
      (s, taken + 1)
    else (significand, 0)

/-- The double `significand * 10 ^ e`, found when `text` is left. -/
def floatingNumber (isNegative : Bool) (significand : Nat) (e : Int) : Reader Number := fun text =>
  match (Binary64.ofNat significand).bind (·.scale e) with
  | some x => .ok (.floating isNegative x, text)
  | none => faultBefore .numberOutOfRange text

def maxExponent : Nat := 0x7FFFFFFF

/-- Takes the digits of an exponent; the number is complete or too large at the first digit that
leads beyond the largest exponent. -/
def exponentDigits (isNegative : Bool) (significand : Nat) (e : Int) (shrinks : Bool)
    (value : Nat) : Reader Number
  | [] => floatingNumber isNegative significand (if shrinks then e - value else e + value) []
  | d :: rest =>
    if isDigit d then
      let next := value * 10 + (d.toNat - 48)
      if next ≤ maxExponent then exponentDigits isNegative significand e shrinks next rest
      else if significand ≠ 0 ∧ !shrinks then .error ⟨.numberOutOfRange, rest.length⟩
      else .ok (.floating isNegative .zero, rest.dropWhile isDigit)
    else
      floatingNumber isNegative significand (if shrinks then e - value else e + value) (d :: rest)

def exponent (isNegative : Bool) (significand : Nat) (e : Int) : Reader Number := fun text =>
  let (shrinks, text) := match text with
    | 43 :: rest => (false, rest)
    | 45 :: rest => (true, rest)
    | text => (false, text)
  match text with
  | [] => faultBefore .eofInValue []
  | d :: rest =>
    if isDigit d then exponentDigits isNegative significand e shrinks (d.toNat - 48) rest
    else .error ⟨.invalidNumber, rest.length⟩

def optionalExponent (isNegative : Bool) (significand : Nat) (e : Int) : Reader Number
  | [] => floatingNumber isNegative significand e []
  | b :: rest =>
    if b = 101 ∨ b = 69 then exponent isNegative significand e rest
    else floatingNumber isNegative significand e (b :: rest)

def fraction (isNegative : Bool) (significand : Nat) (e : Int) : Reader Number := fun text =>
  let digits := text.takeWhile isDigit
  let rest := text.dropWhile isDigit
  if digits.isEmpty then faultHere (if rest.isEmpty then .eofInValue else .invalidNumber) rest
  else
    let (significand, taken) := absorb significand digits
    optionalExponent isNegative significand (e - taken) rest

def integer (isNegative : Bool) (n : Nat) : Option Number :=
  if !isNegative then some (.natural n)
  else if n = 0 ∨ 0x8000000000000000 < n then (Binary64.ofNat n).map (.floating true)
  else some (.negative n)

/-- What follows the digits before the point; `e` counts those that did not fit. -/
def afterDigits (isNegative : Bool) (significand e : Nat) : Reader Number := fun text =>
  match text with
  | 46 :: rest => fraction isNegative significand e rest
  | _ =>
    if text.head? = some 101 ∨ text.head? = some 69 ∨ e ≠ 0 then
      optionalExponent isNegative significand e text
    else match integer isNegative significand with
      | some number => .ok (number, text)
      | none => faultBefore .numberOutOfRange text

/-- Reads a number whose sign has been taken. -/
def unsignedNumber (isNegative : Bool) : Reader Number
  | [] => faultBefore .eofInValue []
  | d :: rest =>
    if d = 48 then
      match rest with
      | d' :: rest' =>
        if isDigit d' then .error ⟨.invalidNumber, rest'.length⟩
        else afterDigits isNegative 0 0 rest
      | [] => afterDigits isNegative 0 0 []
    else if isDigit d then
      let digits := d :: rest.takeWhile isDigit
      let (significand, taken) := absorb 0 digits
      afterDigits isNegative significand (digits.length - taken) (rest.dropWhile isDigit)
    else .error ⟨.invalidNumber, rest.length⟩

def number : Reader Number
  | 45 :: rest => unsignedNumber true rest
  | text => unsignedNumber false text

end BuildFleet.Json
