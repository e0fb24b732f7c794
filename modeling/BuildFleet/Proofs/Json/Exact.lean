import BuildFleet.Json.Decode
import BuildFleet.Proofs.Json.Literals
import BuildFleet.Proofs.Json.Printed
/-!
# Readers that take exactly one value

What a reader makes of a JSON value that stands in a text depends on the value alone, and it leaves what
follows the value: such a reader is `Exact`. The readers of texts, booleans and integers are, whether they
accept the value or not.
-/
namespace BuildFleet.Json

/-! ## White space -/

section
variable {pad v rest : List UInt8}

theorem skipSpace_pad (h : IsPad pad) (text : List UInt8) : skipSpace (pad ++ text) = skipSpace text := by
  induction pad with
  | nil => rfl
  | cons b pad ih =>
    obtain ⟨hb, hpad⟩ := List.forall_mem_cons.1 h
    rw [List.cons_append, skipSpace_of_isSpace hb, ih hpad]

theorem IsValue.skipSpace_eq (h : IsValue v) (rest : List UInt8) : skipSpace (v ++ rest) = v ++ rest := by
  obtain ⟨b, v', rfl, hb, -⟩ := h.start
  exact skipSpace_of_not_isSpace hb _

theorem skipSpace_closing {b : UInt8} (h : IsPad pad) (hb : isSpace b = false) (rest : List UInt8) :
    skipSpace (pad ++ b :: rest) = b :: rest := by
  rw [skipSpace_pad h, skipSpace_of_not_isSpace hb]

end

/-! ## Values by their first byte -/

section
variable {b : UInt8} {v : List UInt8}

theorem IsNumber.start (h : IsNumber (b :: v)) : b = 45 ∨ isDigit b = true := by
  generalize hn : b :: v = n at h
  obtain ⟨hsign, hwhole, -, -⟩ := h
  rcases List.mem_pair.1 hsign with rfl | rfl
  · cases hwhole with
    | zero => exact .inr ((List.cons.inj hn).1 ▸ rfl)
    | digits hd => exact .inr ((List.cons.inj hn).1 ▸ hd)
  · exact .inl (List.cons.inj hn).1

theorem IsValue.of_quote (h : IsValue (34 :: v)) : ∃ literal, IsLiteral literal ∧ v = literal ++ [34] := by
  cases h with
  | word h => simp at h
  | number h => exact absurd h.start (by decide)
  | text h => exact ⟨_, h, rfl⟩

theorem IsValue.of_bracket (h : IsValue (91 :: v)) :
    ∃ vs, Sequence 93 Eq true vs v ∧ ∀ v ∈ vs, IsValue v := by
  cases h with
  | word h => simp at h
  | number h => exact absurd h.start (by decide)
  | list h hvs => exact ⟨_, h, hvs⟩

theorem IsValue.of_brace (h : IsValue (123 :: v)) : ∃ ps, IsObject ps (123 :: v) := by
  cases h with
  | word h => simp at h
  | number h => exact absurd h.start (by decide)
  | object h hkeys hvalues => exact ⟨_, ⟨_, rfl, h⟩, hkeys, hvalues⟩

theorem IsValue.of_true (h : IsValue (116 :: v)) : v = [114, 117, 101] := by
  cases h with
  | word h => simpa using h
  | number h => exact absurd h.start (by decide)

theorem IsValue.of_false (h : IsValue (102 :: v)) : v = [97, 108, 115, 101] := by
  cases h with
  | word h => simpa using h
  | number h => exact absurd h.start (by decide)

theorem IsValue.of_digit (h : IsValue (b :: v)) (hb : b = 45 ∨ isDigit b = true) : IsNumber (b :: v) := by
  generalize hw : b :: v = w at h
  cases h with
  | number h => exact h
  | word h =>
    exfalso
    simp only [List.mem_cons, List.not_mem_nil, or_false] at h
    rcases h with rfl | rfl | rfl <;> rw [(List.cons.inj hw).1] at hb <;> exact absurd hb (by decide)
  | _ => exact absurd ((List.cons.inj hw).1 ▸ hb) (by decide)

end

/-! ## Exact readers -/

section
variable {α : Type} {item : Reader α} {v pad pad' rest : List UInt8} {x : α}

/-- The reader takes the value, whatever comes next. -/
def Reads (item : Reader α) (v : List UInt8) (x : α) : Prop :=
  ∀ rest, Delimited rest → item (v ++ rest) = .ok (x, rest)

/-- What the reader makes of a value depends on the value alone. -/
structure Exact (item : Reader α) : Prop where
  skip : ∀ pad text, IsPad pad → item (pad ++ text) = item text
  reads : ∀ v, IsValue v → ∀ rest, Delimited rest → ∀ y, item (v ++ rest) = .ok y →
    ∃ x, y = (x, rest) ∧ Reads item v x

theorem delimited_nil : Delimited [] := by
  intro b hb
  cases hb

theorem delimited_pad (h : IsPad pad) : Delimited pad := by
  rw [← List.append_nil pad]
  exact .of_isPad h delimited_nil

theorem Reads.unique {y : α} (hx : Reads item v x) (hy : Reads item v y) : x = y := by
  have h := (hx [] delimited_nil).symm.trans (hy [] delimited_nil)
  exact (Prod.mk.inj (Except.ok.inj h)).1

/-- A text that is a value and white space is decoded as the value is read. -/
theorem Exact.decode_iff (h : Exact item) (hv : IsValue v) (hpad : IsPad pad) (hpad' : IsPad pad') :
    decode item (pad ++ (v ++ pad')) = .ok x ↔ Reads item v x := by
  have hspace : skipSpace pad' = [] := by
    rw [← List.append_nil pad', skipSpace_pad hpad']
    rfl
  rw [decode, h.skip _ _ hpad]
  constructor
  · intro hdecode
    cases hread : item (v ++ pad') with
    | error fault => rw [hread] at hdecode; cases hdecode
    | ok y =>
      obtain ⟨x', rfl, hx'⟩ := h.reads v hv pad' (delimited_pad hpad') y hread
      simp only [hread, hspace] at hdecode
      cases hdecode
      exact hx'
  · intro hx
    simp only [hx pad' (delimited_pad hpad'), hspace]

theorem wrongType_ne_ok (expected : String) (text : List UInt8) (x : α) :
    wrongType expected text ≠ .ok x := by
  unfold wrongType
  intro h
  repeat' split at h
  all_goals simp [faultHere, bind, Except.bind] at h
  all_goals split at h <;> cases h

end

/-! ## Texts and booleans -/

theorem exact_text : Exact text where
  skip pad bytes h := by rw [text, text, skipSpace_pad h]
  reads v hv rest hrest y hy := by
    rw [text, hv.skipSpace_eq] at hy
    split at hy
    · rename_i v' heq
      obtain ⟨b, v, rfl, -⟩ := hv.start
      rw [List.cons_append] at heq
      obtain ⟨rfl, rfl⟩ := List.cons.inj heq
      obtain ⟨literal, hliteral, rfl⟩ := hv.of_quote
      rw [List.append_assoc] at hy
      obtain ⟨s, rfl, hs⟩ := textAfterQuote_exact hliteral hy
      refine ⟨s, rfl, fun rest' _ => ?_⟩
      rw [text, hv.skipSpace_eq, List.cons_append, List.append_assoc]
      exact hs rest'
    · exact absurd hy (wrongType_ne_ok _ _ _)

theorem exact_boolean : Exact boolean where
  skip pad bytes h := by rw [boolean, boolean, skipSpace_pad h]
  reads v hv rest hrest y hy := by
    have hread : ∀ rest, boolean ([116, 114, 117, 101] ++ rest) = .ok (true, rest) ∧
        boolean ([102, 97, 108, 115, 101] ++ rest) = .ok (false, rest) := fun rest => ⟨rfl, rfl⟩
    obtain ⟨b, v, rfl, -⟩ := id hv.start
    by_cases htrue : b = 116
    · subst htrue
      obtain rfl := hv.of_true
      rw [(hread rest).1] at hy
      cases hy
      exact ⟨true, rfl, fun rest' _ => (hread rest').1⟩
    by_cases hfalse : b = 102
    · subst hfalse
      obtain rfl := hv.of_false
      rw [(hread rest).2] at hy
      cases hy
      exact ⟨false, rfl, fun rest' _ => (hread rest').2⟩
    · rw [boolean, hv.skipSpace_eq, List.cons_append] at hy
      split at hy
      · rename_i heq
        exact absurd (List.cons.inj heq).1 htrue
      · rename_i heq
        exact absurd (List.cons.inj heq).1 hfalse
      · exact absurd hy (wrongType_ne_ok _ _ _)

/-! ## Integers -/

def Number.IsFloating (n : Number) : Prop := ∃ isNegative x, n = .floating isNegative x

section
variable {n : Number} {isNegative shrinks : Bool} {significand : Nat} {e : Int} {text rest : List UInt8}

theorem floatingNumber_isFloating (h : floatingNumber isNegative significand e text = .ok (n, rest)) :
    n.IsFloating := by
  unfold floatingNumber at h
  split at h
  · cases h
    exact ⟨_, _, rfl⟩
  · cases h

theorem exponentDigits_isFloating {value : Nat}
    (h : exponentDigits isNegative significand e shrinks value text = .ok (n, rest)) :
    n.IsFloating := by
  induction text generalizing value with
  | nil => exact floatingNumber_isFloating h
  | cons d text ih =>
    unfold exponentDigits at h
    dsimp only at h
    split at h
    · split at h
      · exact ih h
      · split at h
        · cases h
        · cases h
          exact ⟨_, _, rfl⟩
    · exact floatingNumber_isFloating h

theorem exponent_isFloating (h : exponent isNegative significand e text = .ok (n, rest)) :
    n.IsFloating := by
  unfold exponent at h
  dsimp only at h
  split at h
  · cases h
  · split at h
    · exact exponentDigits_isFloating h
    · cases h

theorem optionalExponent_isFloating
    (h : optionalExponent isNegative significand e text = .ok (n, rest)) : n.IsFloating := by
  cases text with
  | nil => exact floatingNumber_isFloating h
  | cons b text =>
    rw [optionalExponent] at h
    split at h
    · exact exponent_isFloating h
    · exact floatingNumber_isFloating h

theorem fraction_isFloating (h : fraction isNegative significand e text = .ok (n, rest)) :
    n.IsFloating := by
  unfold fraction at h
  dsimp only at h
  split at h
  · cases h
  · exact optionalExponent_isFloating h

theorem afterDigits_isFloating {b : UInt8} {digits : Nat} (hb : b ∈ ([46, 101, 69] : List UInt8))
    (h : afterDigits isNegative significand digits (b :: text) = .ok (n, rest)) : n.IsFloating := by
  simp only [List.mem_cons, List.not_mem_nil, or_false] at hb
  rcases hb with rfl | rfl | rfl
  · exact fraction_isFloating h
  · have hexponent : optionalExponent isNegative significand digits (101 :: text) = .ok (n, rest) := by
      simpa [afterDigits] using h
    exact optionalExponent_isFloating hexponent
  · have hexponent : optionalExponent isNegative significand digits (69 :: text) = .ok (n, rest) := by
      simpa [afterDigits] using h
    exact optionalExponent_isFloating hexponent

theorem unsignedNumber_whole {whole : List UInt8} (h : IsInteger whole) (isNegative : Bool) :
    ∃ significand digits, ∀ text, (∀ b ∈ text.head?, isDigit b = false) →
      unsignedNumber isNegative (whole ++ text) = afterDigits isNegative significand digits text := by
  cases h with
  | zero =>
    refine ⟨0, 0, fun text htext => ?_⟩
    cases text with
    | nil => rfl
    | cons b text =>
      have hb : isDigit b = false := htext b rfl
      simp [unsignedNumber, hb]
  | @digits d ds hd hzero hds =>
    refine ⟨(absorb 0 (d :: ds)).1, (d :: ds).length - (absorb 0 (d :: ds)).2, fun text htext => ?_⟩
    have htake : (ds ++ text).takeWhile isDigit = ds := by
      rw [List.takeWhile_append_of_pos hds]
      cases text with
      | nil => simp
      | cons b text => simp [htext b rfl]
    have hdrop : (ds ++ text).dropWhile isDigit = text := by
      rw [List.dropWhile_append_of_pos hds]
      cases text with
      | nil => rfl
      | cons b text => simp [htext b rfl]
    simp only [List.cons_append, unsignedNumber, if_neg hzero, if_pos hd, htake, hdrop]

/-- An integer ends where something else may follow. -/
theorem afterDigits_delimited {digits : Nat} (hrest : Delimited rest) :
    afterDigits isNegative significand digits rest =
      if digits ≠ 0 then floatingNumber isNegative significand digits rest
      else (integer isNegative significand).elim (faultBefore .numberOutOfRange rest)
        fun number => .ok (number, rest) := by
  have hinteger : ∀ text : List UInt8, (∀ tail, text ≠ 46 :: tail) → text.head? ≠ some 101 →
      text.head? ≠ some 69 → afterDigits isNegative significand 0 text =
        (integer isNegative significand).elim (faultBefore .numberOutOfRange text)
          fun number => .ok (number, text) := by
    intro text hpoint he he'
    rw [afterDigits]
    · cases integer isNegative significand <;> simp [he, he']
    · exact hpoint
  cases rest with
  | nil =>
    by_cases hdigits : digits = 0
    · rw [hdigits, hinteger] <;> simp
    · simp [afterDigits, optionalExponent, hdigits]
  | cons b rest =>
    have hb := hrest b rfl
    simp only [List.mem_cons, List.not_mem_nil, or_false] at hb
    by_cases hdigits : digits = 0
    · rw [hdigits, hinteger] <;>
        rcases hb with rfl | rfl | rfl | rfl | rfl | rfl | rfl <;> simp
    · rcases hb with rfl | rfl | rfl | rfl | rfl | rfl | rfl <;>
        simp [afterDigits, optionalExponent, hdigits]

theorem head_not_isDigit (h : Delimited rest) : ∀ b ∈ rest.head?, isDigit b = false := by
  intro b hb
  have hkey : ∀ b ∈ ([32, 10, 9, 13, 44, 93, 125] : List UInt8), isDigit b = false := by
    decide +kernel
  exact hkey b (h b hb)

theorem number_sign {sign whole : List UInt8} (hsign : sign ∈ ([[], [45]] : List (List UInt8)))
    (hwhole : IsInteger whole) (text : List UInt8) :
    number (sign ++ (whole ++ text)) = unsignedNumber (sign == [45]) (whole ++ text) := by
  rcases List.mem_pair.1 hsign with rfl | rfl
  · cases hwhole with
    | zero => rfl
    | @digits d ds hd hzero hds =>
      have hd' : d ≠ 45 := ne_of_isDigit hd (by decide)
      rw [List.nil_append, List.cons_append, number]
      · rfl
      · intro rest h
        exact hd' (List.cons.inj h).1
  · rfl

/-- What follows the digits of a number that is an integer is not part of it. -/
theorem number_tail {fraction exponent : List UInt8} (hfraction : IsFraction fraction)
    (hexponent : IsExponent exponent) :
    fraction ++ exponent = [] ∨
      ∃ b tail, fraction ++ exponent = b :: tail ∧ b ∈ ([46, 101, 69] : List UInt8) := by
  cases hfraction with
  | digits _ => exact .inr ⟨_, _, rfl, by decide⟩
  | none =>
    cases hexponent with
    | none => exact .inl rfl
    | digits he _ _ =>
      refine .inr ⟨_, _, rfl, ?_⟩
      rcases he with rfl | rfl <;> decide

/-- An integer is read from its digits alone. -/
theorem number_exact {v : List UInt8} (h : IsNumber v) (hrest : Delimited rest)
    {y : Number × List UInt8} (hy : number (v ++ rest) = .ok y) (hn : ¬y.1.IsFloating) :
    y.2 = rest ∧ Reads number v y.1 := by
  obtain ⟨hsign, hwhole, hfraction, hexponent⟩ := h
  rename_i sign whole fraction exponent
  obtain ⟨significand, digits, hdigits⟩ := unsignedNumber_whole hwhole (sign == [45])
  -- The digits decide if they are all there is; a fraction or an exponent makes it no integer.
  rcases number_tail hfraction hexponent with hnone | ⟨b, tail, htail, hb⟩
  · have hnumber (rest : List UInt8) (hrest : Delimited rest) :
        number (sign ++ (whole ++ (fraction ++ exponent)) ++ rest) =
          afterDigits (sign == [45]) significand digits rest := by
      rw [hnone, List.append_nil, List.append_assoc, number_sign hsign hwhole,
        hdigits rest (head_not_isDigit hrest)]
    obtain ⟨n, rest₀⟩ := y
    rw [hnumber rest hrest, afterDigits_delimited hrest] at hy
    split at hy
    · exact absurd (floatingNumber_isFloating hy) hn
    rename_i hall
    cases hinteger : integer (sign == [45]) significand with
    | none =>
      rw [hinteger] at hy
      cases hy
    | some number =>
      rw [hinteger] at hy
      cases hy
      refine ⟨rfl, fun rest' hrest' => ?_⟩
      rw [hnumber rest' hrest', afterDigits_delimited hrest', if_neg hall, hinteger]
      rfl
  · have hdigit : isDigit b = false := by
      have hkey : ∀ b ∈ ([46, 101, 69] : List UInt8), isDigit b = false := by
        decide +kernel
      exact hkey b hb
    obtain ⟨n, rest₀⟩ := y
    rw [htail, List.append_assoc, List.append_assoc, List.cons_append, number_sign hsign hwhole,
      hdigits _ (by simpa using hdigit)] at hy
    exact absurd (afterDigits_isFloating hb hy) hn

end

section
variable {α : Type} {expected : String} {convert : Number → Option α} {b : UInt8} {v : List UInt8}

theorem integerOf_of_number (hspace : isSpace b = false) (hb : b = 45 ∨ isDigit b = true)
    {y : α × List UInt8} :
    integerOf expected convert (b :: v) = .ok y ↔
      ∃ n, number (b :: v) = .ok (n, y.2) ∧ convert n = some y.1 := by
  unfold integerOf
  rw [skipSpace_of_not_isSpace hspace]
  simp only [if_pos hb]
  cases number (b :: v) with
  | error fault => simp [bind, Except.bind]
  | ok z =>
    obtain ⟨n, rest⟩ := z
    obtain ⟨x, rest'⟩ := y
    cases hn : convert n with
    | none => cases n <;> simp [bind, Except.bind, hn]
    | some x' => simp [bind, Except.bind, pure, Except.pure, hn, and_comm]

theorem exact_integerOf (hconvert : ∀ n : Number, n.IsFloating → convert n = none) :
    Exact (integerOf expected convert) where
  skip pad bytes h := by
    unfold integerOf
    rw [skipSpace_pad h]
  reads v hv rest hrest y hy := by
    obtain ⟨b, v, rfl, hspace, -⟩ := id hv.start
    by_cases hb : b = 45 ∨ isDigit b = true
    · rw [List.cons_append, integerOf_of_number hspace hb] at hy
      obtain ⟨n, hn, hx⟩ := hy
      have hinteger : ¬n.IsFloating := fun h => by
        rw [hconvert n h] at hx
        cases hx
      obtain ⟨hrest', hreads⟩ := number_exact (hv.of_digit hb) hrest hn hinteger
      refine ⟨y.1, Prod.ext rfl hrest', fun rest' hrest' => ?_⟩
      rw [List.cons_append, integerOf_of_number hspace hb]
      exact ⟨n, hreads rest' hrest', hx⟩
    · unfold integerOf at hy
      rw [hv.skipSpace_eq, List.cons_append] at hy
      simp only [if_neg hb] at hy
      exact absurd hy (wrongType_ne_ok _ _ _)

end

theorem exact_signed64 : Exact signed64 :=
  exact_integerOf fun n ⟨_, _, hn⟩ => by rw [hn]

end BuildFleet.Json
