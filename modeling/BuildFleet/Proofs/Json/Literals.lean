import BuildFleet.Proofs.Json.Escaped
import BuildFleet.Proofs.Json.Skipped
import BuildFleet.Proofs.Text.Lossy
/-!
# Reading between quotes

A text that is read ends where the check that only passes over it would end it (`scanText_spec`), so what
is read from the bytes of a literal depends on nothing that follows (`textAfterQuote_exact`). Bytes that
spell a text are read as that text (`textAfterQuote_spelled`).
-/
namespace BuildFleet.Json

variable {st st' : TextState} {b : UInt8} {held literal bytes text rest : List UInt8}

/-! ## Both ways to go through a text -/

/-- Where the check stands when the scan stands at a state. -/
def TextState.place (isKey : Bool) : TextState → Place
  | plain => .text isKey
  | escape => .escape isKey
  | hex taken _ ok _ => .hex isKey taken ok
  | lowBackslash _ => .text isKey
  | lowLetter _ => .escape isKey

theorem hexValue_isSome (b : UInt8) : (hexValue b).isSome =
    (isDigit b || (97 ≤ b && b ≤ 102) || (65 ≤ b && b ≤ 70)) := by
  rw [Bool.eq_iff_iff]
  refine ⟨isHexDigit_of_hexValue, fun h => ?_⟩
  unfold hexValue
  simp only [isDigit, UInt8.le_iff_toNat_le, Bool.or_eq_true, Bool.and_eq_true, decide_eq_true_eq] at h
  grind

/-- The check goes along with the scan. -/
theorem TextState.step_place {written : List UInt8} (h : st.step b = .next st' written) (isKey : Bool)
    (frames : List Frame) :
    (SkipState.mk (st.place isKey) frames).step b = .next ⟨st'.place isKey, frames⟩ := by
  cases st with
  | plain =>
    simp only [step] at h
    split_ifs at h with hquote hbackslash hcontrol <;> cases h
    · simp [place, SkipState.step, hbackslash]
    · simp [place, SkipState.step, hquote, hbackslash, hcontrol]
  | escape =>
    simp only [step, escapeLetter] at h
    split_ifs at h with hself <;> cases h
    · rcases hself with rfl | rfl | rfl <;> rfl
    all_goals subst b; rfl
  | hex taken value ok high =>
    simp only [step] at h
    split_ifs at h with htaken hok
    · cases h
      simp [place, SkipState.step, htaken, hexValue_isSome]
    · have hplace : st'.place isKey = .text isKey := by
        unfold hexDone at h
        split at h <;> split_ifs at h <;> cases h <;> rfl
      rw [hplace]
      simp only [hexValue_isSome] at hok
      simp [place, SkipState.step, htaken, hok]
  | lowBackslash high =>
    simp only [step] at h
    split_ifs at h with hbackslash
    cases h
    simp [place, SkipState.step, hbackslash]
  | lowLetter high =>
    simp only [step] at h
    split_ifs at h with hletter
    cases h
    simp [place, SkipState.step, hletter]

theorem TextState.step_closed (h : st.step b = .closed) : st = .plain ∧ b = 34 := by
  cases st with
  | plain =>
    simp only [step] at h
    split_ifs at h with hquote
    exact ⟨rfl, hquote⟩
  | escape =>
    simp only [step, escapeLetter] at h
    split_ifs at h
  | hex taken value ok high =>
    simp only [step, hexDone] at h
    grind
  | lowBackslash high =>
    simp only [step] at h
    split_ifs at h
  | lowLetter high =>
    simp only [step] at h
    split_ifs at h

/-- What is read depends on nothing that follows, and ends where the check ends it. -/
theorem scanText_spec (h : scanText held st text = .ok (bytes, rest)) (isKey : Bool)
    (frames : List Frame) :
    skipFrom ⟨st.place isKey, frames⟩ text = skipFrom ⟨afterText isKey, frames⟩ rest ∧
    ∃ used, text = used ++ rest ∧
      ∀ rest', scanText held st (used ++ rest') = .ok (bytes, rest') := by
  induction text generalizing held st with
  | nil => cases h
  | cons b text ih =>
    rw [scanText] at h
    cases hstep : st.step b with
    | closed =>
      obtain ⟨rfl, rfl⟩ := TextState.step_closed hstep
      rw [hstep] at h
      cases h
      refine ⟨rfl, [34], rfl, fun rest' => rfl⟩
    | next st' written =>
      rw [hstep] at h
      obtain ⟨hskip, used, rfl, hused⟩ := ih h
      refine ⟨?_, b :: used, rfl, fun rest' => ?_⟩
      · rw [skipFrom_next (TextState.step_place hstep isKey frames), hskip]
      · rw [List.cons_append, scanText, hstep]
        exact hused rest'
    | fault reason =>
      rw [hstep] at h
      cases h

theorem skipFrom_after (rest : List UInt8) : skipFrom ⟨.after, []⟩ rest = .ok rest := by
  cases rest <;> rfl

/-- What is read from the bytes of a literal depends on nothing that follows its closing quote. -/
theorem textAfterQuote_exact (hliteral : IsLiteral literal) {y : String × List UInt8}
    (h : textAfterQuote (literal ++ 34 :: rest) = .ok y) :
    ∃ s, y = (s, rest) ∧ ∀ rest', textAfterQuote (literal ++ 34 :: rest') = .ok (s, rest') := by
  unfold textAfterQuote at h
  split at h
  · cases h
  rename_i bytes rest₀ hscan
  obtain ⟨hskip, used, hused, hlocal⟩ := scanText_spec hscan false []
  have hrest : rest₀ = rest := by
    have hliteral : skipFrom ⟨TextState.plain.place false, []⟩ (literal ++ 34 :: rest) =
        skipFrom ⟨.after, []⟩ rest := skipFrom_literal hliteral [] _
    rw [hliteral, afterText, if_neg (by decide), skipFrom_after, skipFrom_after] at hskip
    exact (Except.ok.inj hskip).symm
  subst hrest
  have hquoted : used = literal ++ [34] := by
    have happend : (literal ++ [34]) ++ rest₀ = used ++ rest₀ := by
      rw [List.append_assoc]
      exact hused
    exact (List.append_cancel_right happend).symm
  split at h
  · rename_i s hs
    cases h
    refine ⟨s, rfl, fun rest' => ?_⟩
    have hscan' : scanText [] .plain (literal ++ 34 :: rest') = .ok (bytes, rest') := by
      simpa [hquoted] using hlocal rest'
    simp only [textAfterQuote, hscan', hs]
  · cases h

/-! ## Spelled texts -/

theorem plain_of_mem_encodeChar {c : Char} (hquote : c ≠ '"') (hbackslash : c ≠ '\\')
    (hcontrol : ' ' ≤ c) (hb : b ∈ String.utf8EncodeChar c) : b ≠ 34 ∧ b ≠ 92 ∧ ¬b < 32 := by
  by_cases hascii : c.toNat ≤ 127
  · rw [Utf8.encodeChar_one hascii, List.mem_singleton] at hb
    have hvalue : b.toNat = c.toNat := by
      rw [hb, Utf8.toNat_ofNat (by omega)]
    have hcontrol' : 32 ≤ c.toNat := hcontrol
    refine ⟨?_, ?_, ?_⟩
    · rintro rfl
      exact hquote (Char.toNat_inj.1 hvalue.symm)
    · rintro rfl
      exact hbackslash (Char.toNat_inj.1 hvalue.symm)
    · rw [UInt8.lt_iff_toNat_lt, hvalue]
      exact Nat.not_lt.2 hcontrol'
  · have hle : 128 ≤ b := le_of_mem_encodeChar (by omega) hb
    rw [UInt8.le_iff_toNat_le] at hle
    refine ⟨?_, ?_, ?_⟩
    · rintro rfl
      exact absurd hle (by decide)
    · rintro rfl
      exact absurd hle (by decide)
    · rw [UInt8.lt_iff_toNat_lt]
      exact Nat.not_lt.2 (Nat.le_trans (by decide) hle)

theorem scanText_plain (h : ∀ b ∈ bytes, b ≠ 34 ∧ b ≠ 92 ∧ ¬b < 32) (held rest : List UInt8) :
    scanText held .plain (bytes ++ rest) = scanText (bytes.reverse ++ held) .plain rest := by
  induction bytes generalizing held with
  | nil => rfl
  | cons b bytes ih =>
    obtain ⟨⟨hquote, hbackslash, hcontrol⟩, hbytes⟩ := List.forall_mem_cons.1 h
    have hstep : TextState.plain.step b = .next .plain [b] := by
      simp [TextState.step, hquote, hbackslash, hcontrol]
    rw [List.cons_append, scanText, hstep]
    change scanText (b :: held) .plain (bytes ++ rest) = _
    rw [ih hbytes, List.reverse_cons, List.append_assoc]
    rfl

theorem scanText_isHex {digits written : List UInt8} {value : Nat} {high : Option Nat}
    (h : IsHex digits value) (hdone : hexDone value high = .next st written)
    (held rest : List UInt8) :
    scanText held (.hex 0 0 true high) (digits ++ rest) =
      scanText (written.reverse ++ held) st rest := by
  obtain ⟨hlength, hdigits, hvalue⟩ := h
  match digits, hlength with
  | [a, b, c, d], _ =>
    simp only [List.forall_mem_cons] at hdigits
    obtain ⟨ha, hb, hc, hd, -⟩ := hdigits
    simp only [List.foldl_cons, List.foldl_nil, Nat.zero_mul, Nat.zero_add] at hvalue
    subst hvalue
    simp [scanText, TextState.step, ha, hb, hc, hd, hdone]

theorem hexDone_plain (c : Char) : hexDone c.toNat none = .next .plain (String.utf8EncodeChar c) := by
  have hvalid := Utf8.valid_toNat c
  have hlow : ¬(0xDC00 ≤ c.toNat ∧ c.toNat ≤ 0xDFFF) := by omega
  have hhigh : ¬(0xD800 ≤ c.toNat ∧ c.toNat ≤ 0xDBFF) := by omega
  simp only [hexDone, if_neg hlow, if_neg hhigh, codePointBytes, Char.ofNat_toNat]

theorem scanText_spelled {cs : List Char} (h : Spells literal cs) (held rest : List UInt8) :
    scanText held .plain (literal ++ rest) =
      scanText ((cs.flatMap String.utf8EncodeChar).reverse ++ held) .plain rest := by
  induction h generalizing held with
  | nil => rfl
  | plain hquote hbackslash hcontrol _ ih =>
    have hplain := fun b => plain_of_mem_encodeChar (b := b) hquote hbackslash hcontrol
    rw [List.append_assoc, scanText_plain hplain, ih]
    simp
  | @escape letter c literal _ hletter _ ih =>
    have hstep : escapeLetter letter = .next .plain (String.utf8EncodeChar c) := by
      simp only [escapes, List.mem_cons, List.not_mem_nil, or_false, Prod.mk.injEq] at hletter
      rcases hletter with ⟨rfl, rfl⟩ | ⟨rfl, rfl⟩ | ⟨rfl, rfl⟩ | ⟨rfl, rfl⟩ | ⟨rfl, rfl⟩ | ⟨rfl, rfl⟩ |
        ⟨rfl, rfl⟩ | ⟨rfl, rfl⟩ <;> rfl
    have hscan : scanText held .plain (92 :: letter :: (literal ++ rest)) =
        scanText ((String.utf8EncodeChar c).reverse ++ held) .plain (literal ++ rest) := by
      change scanText held .escape (letter :: (literal ++ rest)) = _
      rw [scanText, TextState.step, hstep]
    rw [List.cons_append, List.cons_append, hscan, ih]
    simp
  | @codePoint digits c literal _ hc _ ih =>
    change scanText held (.hex 0 0 true none) (digits ++ literal ++ rest) = _
    rw [List.append_assoc, scanText_isHex hc (hexDone_plain c), ih]
    simp
  | @halves digits digits' high low c literal _ hhigh hlow hhigh' hlow' hc _ ih =>
    -- The first half writes nothing; it is held until the second makes a code point of it.
    have hopen : hexDone (0xD800 + high) none = .next (.lowBackslash (0xD800 + high)) [] := by
      rw [hexDone, if_neg (by omega), if_pos (by omega)]
    have hdone : hexDone (0xDC00 + low) (some (0xD800 + high)) =
        .next .plain (String.utf8EncodeChar c) := by
      have hvalue : 0x10000 + (0xD800 + high - 0xD800) * 0x400 + (0xDC00 + low - 0xDC00) = c.toNat := by
        omega
      rw [hexDone, if_pos (by omega), hvalue, codePointBytes, Char.ofNat_toNat]
    change scanText held (.hex 0 0 true none) ((digits ++ 92 :: 117 :: (digits' ++ literal)) ++ rest) = _
    rw [List.append_assoc, scanText_isHex hhigh hopen]
    change scanText held (.hex 0 0 true (some (0xD800 + high))) (digits' ++ literal ++ rest) = _
    rw [List.append_assoc, scanText_isHex hlow hdone, ih]
    simp

/-- Bytes that spell a text are read as that text. -/
theorem textAfterQuote_spelled {s : String} (h : Spells literal s.toList) (rest : List UInt8) :
    textAfterQuote (literal ++ 34 :: rest) = .ok (s, rest) := by
  have hscan : scanText [] .plain (literal ++ 34 :: rest) = .ok (Utf8.encode s, rest) := by
    rw [scanText_spelled h, encode_eq_flatMap]
    simp [scanText, TextState.step]
  simp only [textAfterQuote, hscan, Utf8.decode?_encode]

theorem IsLiteral.append_plain (h : IsLiteral rest) (hbytes : ∀ b ∈ bytes, b ≠ 34 ∧ b ≠ 92 ∧ ¬b < 32) :
    IsLiteral (bytes ++ rest) := by
  induction bytes with
  | nil => exact h
  | cons b bytes ih =>
    obtain ⟨⟨hquote, hbackslash, hcontrol⟩, hbytes⟩ := List.forall_mem_cons.1 hbytes
    exact .plain hquote hbackslash hcontrol (ih hbytes)

theorem Spells.isLiteral {cs : List Char} (h : Spells literal cs) : IsLiteral literal := by
  induction h with
  | nil => exact .nil
  | plain hquote hbackslash hcontrol _ ih =>
    have hplain := fun b => plain_of_mem_encodeChar (b := b) hquote hbackslash hcontrol
    exact ih.append_plain hplain
  | escape hletter _ ih => exact .escape (List.mem_map_of_mem (f := Prod.fst) hletter) ih
  | codePoint hc _ ih => exact .hex hc.length hc.isDigit ih
  | halves hhigh hlow _ _ _ _ ih =>
    exact .hex hhigh.length hhigh.isDigit (.hex hlow.length hlow.isDigit ih)

theorem spells_encode {s : String} (h : ∀ c ∈ s.toList, c ≠ '"' ∧ c ≠ '\\' ∧ 32 ≤ c.toNat) :
    Spells (Utf8.encode s) s.toList := by
  rw [encode_eq_flatMap]
  generalize s.toList = cs at h ⊢
  induction cs with
  | nil => exact .nil
  | cons c cs ih =>
    obtain ⟨⟨hquote, hbackslash, hcontrol⟩, hcs⟩ := List.forall_mem_cons.1 h
    exact .plain hquote hbackslash hcontrol (ih hcs)

end BuildFleet.Json
