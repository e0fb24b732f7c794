import BuildFleet.Wire.Fault
/-!
# Variable-length integers

Seven bits to a byte, the least significant first; the top bit says that more follow. A number of 64
bits takes at most ten bytes, of which the tenth holds one bit. What is written reads back, whatever
follows (`readVarint_varint`).
-/
namespace BuildFleet.Wire

def varint (n : Nat) : List UInt8 :=
  if n < 128 then [UInt8.ofNat n] else UInt8.ofNat (n % 128 + 128) :: varint (n / 128)
termination_by n
decreasing_by omega

/-- Reads a number of which at most `more` bytes may follow the next one. -/
def readVarintFrom (more : Nat) : Reader Nat
  | [] => fail .invalidVarint
  | b :: rest =>
    match more with
    | 0 => if b < 2 then .ok (b.toNat, rest) else fail .invalidVarint
    | more + 1 =>
      if b < 128 then .ok (b.toNat, rest)
      else match readVarintFrom more rest with
        | .ok (high, rest) => .ok (b.toNat - 128 + 128 * high, rest)
        | .error fault => .error fault

def readVarint : Reader Nat := readVarintFrom 9

theorem readVarintFrom_varint (more n : Nat) (h : n < 2 * Nat.pow 128 more) (rest : List UInt8) :
    readVarintFrom more (varint n ++ rest) = .ok (n, rest) := by
  -- On the bytes that may follow; the tenth byte of a number has a single bit.
  induction more generalizing n with
  | zero =>
    have hn : n < 2 := h
    rw [varint, if_pos (by omega)]
    have h2 : UInt8.ofNat n < 2 := by
      rw [UInt8.lt_iff_toNat_lt]
      simp
      omega
    simp only [List.cons_append, List.nil_append, readVarintFrom, h2, if_true]
    simp
    omega
  | succ more ih =>
    rw [varint]
    by_cases hn : n < 128
    · rw [if_pos hn]
      have h2 : UInt8.ofNat n < 128 := by
        rw [UInt8.lt_iff_toNat_lt]
        simp
        omega
      simp only [List.cons_append, List.nil_append, readVarintFrom, h2, if_true]
      simp
      omega
    · rw [if_neg hn]
      have h2 : ¬ UInt8.ofNat (n % 128 + 128) < 128 := by
        rw [UInt8.lt_iff_toNat_lt]
        simp
        omega
      have hq : n / 128 < 2 * Nat.pow 128 more := by
        have hs : Nat.pow 128 (more + 1) = Nat.pow 128 more * 128 := rfl
        omega
      simp only [List.cons_append, readVarintFrom, h2, if_false, ih _ hq]
      simp
      omega

theorem readVarint_varint (n : Nat) (h : n < UInt64.size) (rest : List UInt8) :
    readVarint (varint n ++ rest) = .ok (n, rest) :=
  readVarintFrom_varint 9 n h rest

end BuildFleet.Wire
