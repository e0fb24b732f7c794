import BuildFleet.Json.Decode
import BuildFleet.Json.Print
import Mathlib.Data.List.Basic
/-!
# Reading what was printed

Each byte of a text is written so that the scan gives it back (`scanText_escapeByte`), so a printed text
is read as it was (`text_quote`). Lists and members of records in the pretty form are read piece by
piece: an element that can be read where it stands can be read in a list (`list_prettyItems`), and a
member in an object (`Record.fromObject_member`).
-/
namespace BuildFleet.Json

/-! ## Texts -/

theorem hexValue_hexDigitByte {n : UInt8} (h : n < 16) : hexValue (hexDigitByte n) = some n.toNat := by
  have key : ∀ k < 16, hexValue (hexDigitByte (UInt8.ofNat k)) = some k := by decide
  simpa using key n.toNat h

theorem codePointBytes_of_lt {b : UInt8} (h : b < 32) : codePointBytes b.toNat = [b] := by
  have key : ∀ k < 32, codePointBytes k = [UInt8.ofNat k] := by decide
  simpa using key b.toNat h

/-- A control that has no letter of its own is written as its code point. -/
theorem scanText_hex {b : UInt8} (h : b < 32) (held rest : List UInt8) :
    scanText held .plain
        (92 :: 117 :: 48 :: 48 :: hexDigitByte (b / 16) :: hexDigitByte (b % 16) :: rest) =
      scanText (b :: held) .plain rest := by
  have hb : b.toNat < 32 := h
  have hhigh : hexValue (hexDigitByte (b / 16)) = some (b.toNat / 16) :=
    hexValue_hexDigitByte (by rw [UInt8.lt_iff_toNat_lt]; simp; omega)
  have hlow : hexValue (hexDigitByte (b % 16)) = some (b.toNat % 16) :=
    hexValue_hexDigitByte (by rw [UInt8.lt_iff_toNat_lt]; simp; omega)
  have hzero : hexValue 48 = some 0 := rfl
  have hvalue : b.toNat / 16 * 16 + b.toNat % 16 = b.toNat := by omega
  have hdone : hexDone b.toNat none = .next .plain [b] := by
    have hlone : ¬(0xDC00 ≤ b.toNat ∧ b.toNat ≤ 0xDFFF) := by omega
    have hpair : ¬(0xD800 ≤ b.toNat ∧ b.toNat ≤ 0xDBFF) := by omega
    simp [hexDone, hlone, hpair, codePointBytes_of_lt h]
  simp [scanText, TextState.step, escapeLetter, hhigh, hlow, hzero, hvalue, hdone]

/-- A byte of a text is read as it was, however it is written. -/
theorem scanText_escapeByte (b : UInt8) (held rest : List UInt8) :
    scanText held .plain (escapeByte b ++ rest) = scanText (b :: held) .plain rest := by
  unfold escapeByte
  split
  · subst_vars; rfl
  · split
    · subst_vars; rfl
    · split
      · rename_i hquote hbackslash hplain
        have hcontrol : ¬b < 32 := UInt8.not_lt.2 hplain
        simp [scanText, TextState.step, hquote, hbackslash, hcontrol]
      · repeat' split
        all_goals first
          | subst_vars; rfl
          | exact scanText_hex (UInt8.not_le.1 ‹_›) held rest

theorem scanText_flatMap (bytes held rest : List UInt8) :
    scanText held .plain (bytes.flatMap escapeByte ++ 34 :: rest) =
      .ok (held.reverse ++ bytes, rest) := by
  induction bytes generalizing held with
  | nil => simp [scanText, TextState.step]
  | cons b bytes ih =>
    rw [List.flatMap_cons, List.append_assoc, scanText_escapeByte, ih]
    simp

theorem quote_append (s : String) (rest : List UInt8) :
    quote s ++ rest = 34 :: ((Utf8.encode s).flatMap escapeByte ++ 34 :: rest) := by
  simp [quote]

theorem textAfterQuote_quote (s : String) (rest : List UInt8) :
    textAfterQuote ((Utf8.encode s).flatMap escapeByte ++ 34 :: rest) = .ok (s, rest) := by
  simp [textAfterQuote, scanText_flatMap, Utf8.decode?_encode]

theorem text_quote (s : String) (rest : List UInt8) : text (quote s ++ rest) = .ok (s, rest) := by
  rw [quote_append]
  exact textAfterQuote_quote s rest

/-! ## White space -/

theorem skipSpace_of_not_isSpace {b : UInt8} (h : isSpace b = false) (rest : List UInt8) :
    skipSpace (b :: rest) = b :: rest := by
  simp [skipSpace, h]

theorem skipSpace_of_isSpace {b : UInt8} (h : isSpace b = true) (rest : List UInt8) :
    skipSpace (b :: rest) = skipSpace rest := by
  simp [skipSpace, h]

theorem skipSpace_lineAt (depth : Nat) (rest : List UInt8) :
    skipSpace (lineAt depth ++ rest) = skipSpace rest := by
  unfold lineAt
  rw [List.cons_append, skipSpace_of_isSpace rfl]
  induction 2 * depth with
  | zero => rfl
  | succ n ih => rw [List.replicate_succ, List.cons_append, skipSpace_of_isSpace rfl, ih]

theorem text_space (rest : List UInt8) : text (32 :: rest) = text rest := rfl

theorem list_space {α : Type} (item : Reader α) (rest : List UInt8) :
    list item (32 :: rest) = list item rest := rfl

/-! ## Lists -/

section
variable {α : Type} {item : Reader α} {print : α → List UInt8} {depth : Nat}

/-- What is printed can be read, whatever follows it, and starts like a value. -/
structure Readable (item : Reader α) (print : α → List UInt8) : Prop where
  read : ∀ x rest, item (print x ++ rest) = .ok (x, rest)
  start : ∀ x, ∃ b tail, print x = b :: tail ∧ isSpace b = false ∧ b ≠ 93

theorem readable_quote : Readable text quote where
  read := text_quote
  start _ := ⟨34, _, rfl, rfl, by decide⟩

theorem flatten_intersperse (separator piece : List UInt8) (pieces : List (List UInt8)) :
    ((piece :: pieces).intersperse separator).flatten =
      piece ++ pieces.flatMap (separator ++ ·) := by
  induction pieces generalizing piece with
  | nil => simp
  | cons next pieces ih => simp [ih]

theorem prettyItems_cons (depth : Nat) (piece : List UInt8) (pieces : List (List UInt8)) :
    prettyItems depth (piece :: pieces) =
      lineAt (depth + 1) ++ (piece ++
        (pieces.flatMap (fun p => 44 :: (lineAt (depth + 1) ++ p)) ++ lineAt depth)) := by
  simp [prettyItems, flatten_intersperse, List.flatMap_map]

theorem length_lt_prettyItems (depth : Nat) (pieces : List (List UInt8)) (rest : List UInt8) :
    pieces.length < (prettyItems depth pieces ++ rest).length + 1 := by
  cases pieces with
  | nil => simp
  | cons piece pieces =>
    have h : pieces.length ≤
        (pieces.flatMap fun p => 44 :: (lineAt (depth + 1) ++ p)).length := by
      induction pieces with
      | nil => simp
      | cons p pieces ih =>
        simp only [List.flatMap_cons, List.length_append, List.length_cons]
        omega
    have hline : 0 < (lineAt (depth + 1)).length := by simp [lineAt]
    rw [prettyItems_cons]
    simp only [List.length_append, List.length_cons]
    omega

theorem nextElement_lineAt (h : Readable item print) (isFirst : Bool) (x : α) (rest : List UInt8) :
    nextElement isFirst ((if isFirst then [] else [44]) ++ (lineAt depth ++ (print x ++ rest))) =
      .ok (some (print x ++ rest), print x ++ rest) := by
  obtain ⟨b, tail, hx, hspace, hclose⟩ := h.start x
  have hskip : skipSpace (lineAt depth ++ b :: (tail ++ rest)) = b :: (tail ++ rest) := by
    rw [skipSpace_lineAt]
    exact skipSpace_of_not_isSpace hspace _
  rw [hx, List.cons_append]
  cases isFirst
  · have hcomma (l : List UInt8) : skipSpace (44 :: l) = 44 :: l := rfl
    simp [nextElement, hcomma, hskip, hclose]
  · simp [nextElement, hskip, hclose]

theorem elements_end (isFirst : Bool) (bound : Nat) (spaces : List UInt8)
    (h : ∀ rest, skipSpace (spaces ++ rest) = skipSpace rest) (rest : List UInt8) :
    elements item (bound + 1) isFirst (spaces ++ 93 :: rest) = .ok ([], rest) := by
  have hskip : skipSpace (spaces ++ 93 :: rest) = 93 :: rest := h _
  have hclose : closeList (93 :: rest) = .ok rest := rfl
  simp only [elements, nextElement, hskip, if_pos]
  rfl

theorem elements_cons (h : Readable item print) (depth : Nat) (isFirst : Bool) (bound : Nat) (x : α)
    (rest : List UInt8) :
    elements item (bound + 1) isFirst
        ((if isFirst then [] else [44]) ++ (lineAt depth ++ (print x ++ rest))) =
      (elements item bound false rest).map fun (xs, rest) => (x :: xs, rest) := by
  have hread := h.read x rest
  simp only [elements, nextElement_lineAt h]
  show (item (print x ++ rest) >>= _) = _
  rw [hread]
  show (elements item bound false rest >>= _) = _
  cases elements item bound false rest <;> rfl

theorem elements_flatMap (h : Readable item print) (xs : List α) {bound : Nat}
    (hb : xs.length < bound) (rest : List UInt8) :
    elements item bound false
        ((xs.map print).flatMap (fun p => 44 :: (lineAt (depth + 1) ++ p)) ++
          (lineAt depth ++ 93 :: rest)) = .ok (xs, rest) := by
  induction xs generalizing bound with
  | nil =>
    obtain ⟨bound, rfl⟩ := Nat.exists_eq_succ_of_ne_zero (Nat.ne_zero_of_lt hb)
    exact elements_end false bound _ (skipSpace_lineAt depth) rest
  | cons x xs ih =>
    obtain ⟨bound, rfl⟩ := Nat.exists_eq_succ_of_ne_zero (Nat.ne_zero_of_lt hb)
    have hcons := elements_cons h (depth + 1) false bound x
      ((xs.map print).flatMap (fun p => 44 :: (lineAt (depth + 1) ++ p)) ++
        (lineAt depth ++ 93 :: rest))
    rw [ih (by simpa using hb)] at hcons
    simpa [Except.map] using hcons

/-- A list in the pretty form is read element by element. -/
theorem list_prettyItems (h : Readable item print) (xs : List α) (rest : List UInt8) :
    list item (91 :: prettyItems depth (xs.map print) ++ 93 :: rest) = .ok (xs, rest) := by
  show elements item _ true (prettyItems depth (xs.map print) ++ 93 :: rest) = _
  have hb := length_lt_prettyItems depth (xs.map print) (93 :: rest)
  cases xs with
  | nil => exact elements_end true _ [] (fun _ => rfl) rest
  | cons x xs =>
    have hcons := elements_cons h (depth + 1) true
      (prettyItems depth ((x :: xs).map print) ++ 93 :: rest).length x
      ((xs.map print).flatMap (fun p => 44 :: (lineAt (depth + 1) ++ p)) ++
        (lineAt depth ++ 93 :: rest))
    rw [elements_flatMap h xs (by simp at hb ⊢; omega)] at hcons
    rw [List.map_cons, prettyItems_cons] at hcons ⊢
    simpa [Except.map] using hcons

end

/-! ## Records -/

namespace Record

variable {σ α : Type} {r : Record σ α} {state : σ} {depth : Nat}

theorem nextKey_first (depth : Nat) (key : String) (rest : List UInt8) :
    nextKey true (lineAt depth ++ (quote key ++ rest)) =
      .ok (some ((Utf8.encode key).flatMap escapeByte ++ 34 :: rest),
        (Utf8.encode key).flatMap escapeByte ++ 34 :: rest) := by
  have hskip (l : List UInt8) : skipSpace (lineAt depth ++ 34 :: l) = 34 :: l := by
    rw [skipSpace_lineAt]
    rfl
  rw [quote_append]
  simp [nextKey, hskip]

theorem nextKey_next (depth : Nat) (key : String) (rest : List UInt8) :
    nextKey false (44 :: (lineAt depth ++ (quote key ++ rest))) =
      .ok (some ((Utf8.encode key).flatMap escapeByte ++ 34 :: rest),
        (Utf8.encode key).flatMap escapeByte ++ 34 :: rest) := by
  have hskip (l : List UInt8) : skipSpace (lineAt depth ++ 34 :: l) = 34 :: l := by
    rw [skipSpace_lineAt]
    rfl
  have hcomma (l : List UInt8) : skipSpace (44 :: l) = 44 :: l := rfl
  rw [quote_append]
  simp [nextKey, hcomma, hskip]

theorem fromObject_member {m : Member σ} {key : String} {text more value rest : List UInt8}
    {set : σ → σ} {isFirst : Bool} (r : Record σ α) (state : σ) (bound : Nat)
    (hkey : nextKey isFirst text =
      .ok (some ((Utf8.encode key).flatMap escapeByte ++ 34 :: 58 :: value), more))
    (hm : r.members.find? (·.key == key) = some m) (hs : m.isSet state = false)
    (hread : m.read value = .ok (set, rest)) :
    r.fromObject (bound + 1) isFirst state text = r.fromObject bound false (set state) rest := by
  have hcolon : colon (58 :: value) = .ok value := rfl
  simp only [fromObject, hkey]
  show (textAfterQuote _ >>= _) = _
  rw [textAfterQuote_quote]
  simp only [bind, Except.bind, hm, hs, hcolon, hread]
  rfl

theorem fromObject_end (isFirst : Bool) (bound : Nat) (hm : r.missing state = none)
    (rest : List UInt8) :
    r.fromObject (bound + 1) isFirst state (lineAt depth ++ 125 :: rest) =
      .ok (r.build state, rest) := by
  have hskip : skipSpace (lineAt depth ++ 125 :: rest) = 125 :: rest := by
    rw [skipSpace_lineAt]
    rfl
  simp only [fromObject, nextKey, hskip, if_pos]
  simp only [bind, Except.bind, hm]
  rfl

end Record

end BuildFleet.Json
