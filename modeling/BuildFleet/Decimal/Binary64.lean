/-!
# Binary floating point, 64 bits wide

Non-negative finite doubles as `mantissa * 2 ^ exponent`, in exact arithmetic on natural numbers:
each operation forms the exact quotient and rounds it once, to the nearest double and to the even
mantissa in a tie. Overflow is `none`.
-/
namespace BuildFleet

structure Binary64 where
  mantissa : Nat
  exponent : Int
  deriving DecidableEq, Repr

namespace Binary64

def zero : Binary64 := ⟨0, -1074⟩

/-- Rounds `num / den` to a whole number, a half to the even neighbour. -/
def roundDiv (num den : Nat) : Nat :=
  let q := num / den
  let twice := 2 * (num % den)
  if twice < den then q
  else if den < twice then q + 1
  else if q % 2 = 0 then q else q + 1

/-- The double nearest to `num / den`, unless it would be too large. -/
def ofRatio (num den : Nat) : Option Binary64 :=
  if num = 0 then some zero
  else
    let guess : Int := max ((Nat.log2 num : Int) - (Nat.log2 den : Int) - 53) (-1074)
    let atExponent (e : Int) : Nat × Nat := (num * Nat.pow 2 (-e).toNat, den * Nat.pow 2 e.toNat)
    let fits (e : Int) : Bool := let (n, d) := atExponent e; n / d < Nat.pow 2 53
    let e := if fits guess then guess else guess + 1
    let (n, d) := atExponent e
    let m := roundDiv n d
    let (m, e) := if m = Nat.pow 2 53 then (Nat.pow 2 52, e + 1) else (m, e)
    if 971 < e then none else some ⟨m, e⟩

/-- The two sides of the fraction that a double is. -/
def ratio (x : Binary64) : Nat × Nat :=
  (x.mantissa * Nat.pow 2 x.exponent.toNat, Nat.pow 2 (-x.exponent).toNat)

def ofNat (n : Nat) : Option Binary64 := ofRatio n 1

def mul (x y : Binary64) : Option Binary64 :=
  ofRatio (x.ratio.1 * y.ratio.1) (x.ratio.2 * y.ratio.2)

def div (x y : Binary64) : Option Binary64 :=
  ofRatio (x.ratio.1 * y.ratio.2) (x.ratio.2 * y.ratio.1)

def powerOfTen (e : Nat) : Option Binary64 := ofNat (Nat.pow 10 e)

/-- The largest power of ten that a double can hold is `10 ^ 308`. -/
def maxPower : Nat := 308

/-- Divides `x` by the largest power of ten, `steps` times over. -/
def shrink (x : Binary64) : Nat → Option Binary64
  | 0 => some x
  | steps + 1 =>
    if x.mantissa = 0 then some x
    else match (powerOfTen maxPower).bind x.div with
      | some y => shrink y steps
      | none => none

/-- The product `x * 10 ^ e` with one rounding for the power and one for the product. A power beyond the
largest shrinks in steps of that, and is too large when it grows. -/
def scale (x : Binary64) (e : Int) : Option Binary64 :=
  if maxPower < e then if x.mantissa = 0 then some x else none
  else if 0 ≤ e then (powerOfTen e.toNat).bind x.mul
  else
    let steps := ((-e).toNat - 1) / maxPower
    (x.shrink steps).bind fun y => (powerOfTen ((-e).toNat - maxPower * steps)).bind y.div

end Binary64

end BuildFleet
