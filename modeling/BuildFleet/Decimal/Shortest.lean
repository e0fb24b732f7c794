import BuildFleet.Decimal.Binary64
/-!
# Shortest decimals

The decimal with the fewest digits that reads back as a given double, and of those the nearest to
it. A decimal reads back as the double when it lies between the midpoints to the double's two
neighbours; the midpoints themselves belong to the double with the even mantissa.
-/
namespace BuildFleet

namespace Binary64

/-- A positive decimal `digits * 10 ^ exponent`. -/
structure Decimal where
  digits : Nat
  exponent : Int
  deriving DecidableEq, Repr

/-- Four times the value and the two midpoints around it, in units of a quarter of the last place:
the spacing below a power of two is half of that above. -/
def quarters (x : Binary64) : Nat × Nat × Nat :=
  let m := 4 * x.mantissa
  (if x.mantissa = Nat.pow 2 52 ∧ -1074 < x.exponent then m - 1 else m - 2, m, m + 2)

def quarterRatio (x : Binary64) (q : Nat) : Nat × Nat :=
  let e := x.exponent - 2
  (q * Nat.pow 2 e.toNat, Nat.pow 2 (-e).toNat)

def ratioLt (r s : Nat × Nat) : Bool := r.1 * s.2 < s.1 * r.2

/-- Whether a decimal, given as a fraction, reads back as the double. -/
def readsBack (x : Binary64) (r : Nat × Nat) : Bool :=
  let (low, _, high) := x.quarters
  let low := x.quarterRatio low
  let high := x.quarterRatio high
  if x.mantissa % 2 = 0 then !ratioLt r low && !ratioLt high r
  else ratioLt low r && ratioLt r high

def decimalRatio (digits : Nat) (e : Int) : Nat × Nat :=
  (digits * Nat.pow 10 e.toNat, Nat.pow 10 (-e).toNat)

/-- The best decimal of the form `d * 10 ^ e` that reads back, if there is one. -/
def onGrid (x : Binary64) (e : Int) : Option Decimal :=
  let (n, d) := x.ratio
  let (sn, sd) := decimalRatio 1 e
  let below := n * sd / (d * sn)
  let rest := 2 * (n * sd % (d * sn))
  let lowOk := below ≠ 0 && x.readsBack (decimalRatio below e)
  let highOk := x.readsBack (decimalRatio (below + 1) e)
  let lowNearer := rest < d * sn || (rest == d * sn && below % 2 == 0)
  if lowOk && (!highOk || lowNearer) then some ⟨below, e⟩
  else if highOk then some ⟨below + 1, e⟩
  else none

/-- The first of the grids `10 ^ e, 10 ^ (e - 1), …` that has a decimal which reads back. -/
def firstGrid (x : Binary64) (e : Int) : Nat → Decimal
  | 0 => ⟨0, 0⟩
  | grids + 1 => match x.onGrid e with
    | some d => d
    | none => firstGrid x (e - 1) grids

/-- The shortest decimal of a positive double. No double is as large as `10 ^ 309`, and the
smallest is nearly `5 * 10 ^ -324`; seventeen digits always suffice, so the search ends. -/
def shortest (x : Binary64) : Decimal := x.firstGrid 309 640

/-- The text of a decimal: positional from `10 ^ -5` up to below `10 ^ 16`, with a fraction in any
case, and with an explicitly signed exponent otherwise. -/
def Decimal.render (d : Decimal) : String :=
  let digits := Nat.toDigits 10 d.digits
  let e : Int := d.exponent + (digits.length - 1 : Nat)
  let zeros (n : Nat) : List Char := List.replicate n '0'
  String.ofList <|
    if 0 ≤ e ∧ e ≤ 15 then
      let whole := e.toNat + 1
      if digits.length ≤ whole then digits ++ zeros (whole - digits.length) ++ ['.', '0']
      else digits.take whole ++ '.' :: digits.drop whole
    else if -5 ≤ e ∧ e < 0 then
      ['0', '.'] ++ zeros ((-e).toNat - 1) ++ digits
    else
      digits.take 1 ++ (if digits.length = 1 then [] else '.' :: digits.drop 1) ++
        ['e', if e < 0 then '-' else '+'] ++ Nat.toDigits 10 e.natAbs

def render (x : Binary64) : String :=
  if x.mantissa = 0 then "0.0" else x.shortest.render

end Binary64

end BuildFleet
