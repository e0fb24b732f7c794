import BuildFleet.Json.Print
import BuildFleet.Text.Quoted
import Mathlib.Data.List.Basic
/-!
# Printed texts as texts

A text is printed byte by byte. Read as characters, what is printed is the text with its quotes, in which
quotes, backslashes and controls are escaped and all other characters stand as they are
(`quote_eq_encode`): no byte of a character outside ASCII is escaped (`le_of_mem_encodeChar`).
-/
namespace BuildFleet.Json

/-- How a character of a text is written between the quotes. -/
def escapeChar (c : Char) : List Char :=
  if c = '"' then ['\\', '"']
  else if c = '\\' then ['\\', '\\']
  else if ' ' ≤ c then [c]
  else if c = '\x08' then ['\\', 'b']
  else if c = '\t' then ['\\', 't']
  else if c = '\n' then ['\\', 'n']
  else if c = '\x0c' then ['\\', 'f']
  else if c = '\r' then ['\\', 'r']
  else ['\\', 'u', '0', '0', Text.hexDigit (c.toNat / 16), Text.hexDigit (c.toNat % 16)]

def quoted (s : String) : String := "\"" ++ String.ofList (s.toList.flatMap escapeChar) ++ "\""

/-! ## Bytes of characters -/

theorem encode_eq_flatMap (s : String) : Utf8.encode s = s.toList.flatMap String.utf8EncodeChar := by
  have h : Utf8.encode (String.ofList s.toList) = s.toList.flatMap String.utf8EncodeChar := by
    rw [Utf8.encode, String.toByteArray_ofList, List.utf8Encode, List.toList_data_toByteArray]
  rwa [String.ofList_toList] at h

theorem le_of_mem_encodeChar {c : Char} {b : UInt8} (hc : 128 ≤ c.toNat)
    (hb : b ∈ String.utf8EncodeChar c) : 128 ≤ b := by
  have hmore : ¬c.val.toNat ≤ 127 := Nat.not_le.2 hc
  simp only [String.utf8EncodeChar, if_neg hmore] at hb
  rw [UInt8.le_iff_toNat_le]
  split at hb
  · simp only [List.mem_cons, List.not_mem_nil, or_false] at hb
    rcases hb with rfl | rfl <;> simp <;> omega
  · split at hb
    · simp only [List.mem_cons, List.not_mem_nil, or_false] at hb
      rcases hb with rfl | rfl | rfl <;> simp <;> omega
    · simp only [List.mem_cons, List.not_mem_nil, or_false] at hb
      rcases hb with rfl | rfl | rfl | rfl <;> simp <;> omega

theorem escapeByte_of_le {b : UInt8} (h : 128 ≤ b) : escapeByte b = [b] := by
  have hquote : b ≠ 34 := by
    rintro rfl
    exact absurd h (by decide)
  have hbackslash : b ≠ 92 := by
    rintro rfl
    exact absurd h (by decide)
  have hplain : 32 ≤ b := UInt8.le_trans (by decide) h
  simp [escapeByte, hquote, hbackslash, hplain]

theorem escapeChar_of_le {c : Char} (h : 128 ≤ c.toNat) : escapeChar c = [c] := by
  have hquote : c ≠ '"' := by
    rintro rfl
    exact absurd h (by decide)
  have hbackslash : c ≠ '\\' := by
    rintro rfl
    exact absurd h (by decide)
  have hplain : ' ' ≤ c := show ' '.toNat ≤ c.toNat from Nat.le_trans (by decide) h
  simp [escapeChar, hquote, hbackslash, hplain]

/-- The bytes of a character are escaped as the character is. -/
theorem flatMap_escapeByte (c : Char) : (String.utf8EncodeChar c).flatMap escapeByte =
    (escapeChar c).flatMap String.utf8EncodeChar := by
  by_cases hc : 128 ≤ c.toNat
  · have hbytes : (String.utf8EncodeChar c).flatMap escapeByte =
        (String.utf8EncodeChar c).flatMap fun b => [b] :=
      List.flatMap_congr fun b hb => escapeByte_of_le (le_of_mem_encodeChar hc hb)
    rw [hbytes, escapeChar_of_le hc]
    simp
  · have key : ∀ n < 128, (String.utf8EncodeChar (Char.ofNat n)).flatMap escapeByte =
        (escapeChar (Char.ofNat n)).flatMap String.utf8EncodeChar := by decide
    have h := key c.toNat (by omega)
    rwa [Char.ofNat_toNat] at h

/-! ## Texts -/

/-- What is printed for a text is the text between quotes. -/
theorem quote_eq_encode (s : String) : quote s = Utf8.encode (quoted s) := by
  have h : (Utf8.encode s).flatMap escapeByte =
      Utf8.encode (String.ofList (s.toList.flatMap escapeChar)) := by
    simp only [encode_eq_flatMap, String.toList_ofList, List.flatMap_assoc, flatMap_escapeByte]
  have hmark : Utf8.encode "\"" = [34] := rfl
  rw [quoted, Utf8.encode_append, Utf8.encode_append, hmark, ← h, quote]
  rfl

end BuildFleet.Json
