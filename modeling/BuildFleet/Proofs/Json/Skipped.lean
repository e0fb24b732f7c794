import BuildFleet.Proofs.Json.Grammar
/-!
# Values that are passed over

The check of a value that nothing will be made of goes through it byte by byte. Whatever is open and
whatever comes next, it has passed over a JSON value exactly (`skipFrom_value`), and so a value that is
skipped leaves what follows it (`skipValue_value`).
-/
namespace BuildFleet.Json

variable {state state' : SkipState} {place : Place} {isKey isFirst : Bool} {b : UInt8}
  {pad text rest : List UInt8}

theorem skipFrom_next (h : state.step b = .next state') (rest : List UInt8) :
    skipFrom state (b :: rest) = skipFrom state' rest := by
  rw [skipFrom, h]

theorem skipFrom_stay {bytes : List UInt8} (h : ∀ b ∈ bytes, state.step b = .next state)
    (rest : List UInt8) : skipFrom state (bytes ++ rest) = skipFrom state rest := by
  induction bytes with
  | nil => rfl
  | cons b bytes ih =>
    rw [List.cons_append, skipFrom_next (h b List.mem_cons_self),
      ih fun b hb => h b (List.mem_cons_of_mem _ hb)]

theorem skipFrom_pad (hplace : place ∈ [.value, .opened, .key, .colon]) (hpad : IsPad pad)
    (frames : List Frame) (rest : List UInt8) :
    skipFrom ⟨place, frames⟩ (pad ++ rest) = skipFrom ⟨place, frames⟩ rest := by
  refine skipFrom_stay (fun b hb => ?_) rest
  simp only [List.mem_cons, List.not_mem_nil, or_false] at hplace
  rcases hplace with rfl | rfl | rfl | rfl <;>
    simp [SkipState.step, afterOpening, hpad b hb]

theorem skipFrom_pad_after (hpad : IsPad pad) (frame : Frame) (frames : List Frame)
    (rest : List UInt8) :
    skipFrom ⟨.after, frame :: frames⟩ (pad ++ rest) = skipFrom ⟨.after, frame :: frames⟩ rest := by
  refine skipFrom_stay (fun b hb => ?_) rest
  cases frame <;> simp [SkipState.step, afterValue, hpad b hb]

/-! ## Texts and words -/

theorem isHexDigit_of_hexValue (h : (hexValue b).isSome) :
    (isDigit b || (97 ≤ b && b ≤ 102) || (65 ≤ b && b ≤ 70)) = true := by
  unfold hexValue at h
  simp only [isDigit, UInt8.le_iff_toNat_le, Bool.or_eq_true, Bool.and_eq_true, decide_eq_true_eq]
  grind

theorem skipFrom_literal {literal : List UInt8} (h : IsLiteral literal) (frames : List Frame)
    (rest : List UInt8) :
    skipFrom ⟨.text isKey, frames⟩ (literal ++ rest) = skipFrom ⟨.text isKey, frames⟩ rest := by
  induction h with
  | nil => rfl
  | plain hquote hbackslash hcontrol _ ih =>
    rw [List.cons_append, skipFrom_next, ih]
    simp [SkipState.step, hquote, hbackslash, hcontrol]
  | escape hletter _ ih =>
    have hu : ∀ letter ∈ ([34, 92, 47, 98, 102, 110, 114, 116] : List UInt8), letter ≠ 117 := by
      decide +kernel
    rw [← ih]
    have hknown := List.contains_iff_mem.2 hletter
    simp only [List.cons_append, skipFrom, SkipState.step, if_neg (hu _ hletter), hknown, if_true]
    rfl
  | @hex digits rest' hlength hdigits _ ih =>
    obtain ⟨a, b, c, d, rfl⟩ : ∃ a b c d, digits = [a, b, c, d] := by
      match digits, hlength with
      | [a, b, c, d], _ => exact ⟨a, b, c, d, rfl⟩
    have hhex := fun x hx => isHexDigit_of_hexValue (hdigits x hx)
    simp only [List.forall_mem_cons] at hhex
    obtain ⟨ha, hb, hc, hd, -⟩ := hhex
    rw [← ih]
    simp [skipFrom, SkipState.step, ha, hb, hc, hd]

theorem skipFrom_word {v : List UInt8}
    (h : v ∈ ([[110, 117, 108, 108], [116, 114, 117, 101], [102, 97, 108, 115, 101]] : List _))
    (frames : List Frame) (rest : List UInt8) :
    skipFrom ⟨.value, frames⟩ (v ++ rest) = skipFrom ⟨.after, frames⟩ rest := by
  simp only [List.mem_cons, List.not_mem_nil, or_false] at h
  rcases h with rfl | rfl | rfl <;> rfl

/-! ## Numbers -/

/-- The places inside a number at which it may end. -/
def numberEnds : List Place := [.zero, .digits, .fraction, .exponentDigits]

theorem skipFrom_numberEnd (hplace : place ∈ numberEnds) (hrest : Delimited rest)
    (frames : List Frame) :
    skipFrom ⟨place, frames⟩ rest = skipFrom ⟨.after, frames⟩ rest := by
  simp only [numberEnds, List.mem_cons, List.not_mem_nil, or_false] at hplace
  cases rest with
  | nil => rcases hplace with rfl | rfl | rfl | rfl <;> rfl
  | cons b rest =>
    have hb := hrest b rfl
    simp only [List.mem_cons, List.not_mem_nil, or_false] at hb
    have hstep : (SkipState.mk place frames).step b = (SkipState.mk .after frames).step b := by
      rcases hplace with rfl | rfl | rfl | rfl <;>
        rcases hb with rfl | rfl | rfl | rfl | rfl | rfl | rfl <;> rfl
    rw [skipFrom, skipFrom, hstep]

theorem skipFrom_digits (hplace : place ∈ [.digits, .fraction, .exponentDigits]) {ds : List UInt8}
    (hds : ∀ d ∈ ds, isDigit d = true) (frames : List Frame) (rest : List UInt8) :
    skipFrom ⟨place, frames⟩ (ds ++ rest) = skipFrom ⟨place, frames⟩ rest := by
  refine skipFrom_stay (fun d hd => ?_) rest
  simp only [List.mem_cons, List.not_mem_nil, or_false] at hplace
  rcases hplace with rfl | rfl | rfl <;> simp [SkipState.step, hds d hd]

theorem skipFrom_whole (hplace : place ∈ [.value, .minus]) {whole : List UInt8}
    (h : IsInteger whole) (frames : List Frame) (rest : List UInt8) :
    ∃ place' ∈ [Place.zero, .digits],
      skipFrom ⟨place, frames⟩ (whole ++ rest) = skipFrom ⟨place', frames⟩ rest := by
  simp only [List.mem_cons, List.not_mem_nil, or_false] at hplace
  cases h with
  | zero =>
    refine ⟨.zero, by simp, ?_⟩
    rcases hplace with rfl | rfl <;> rfl
  | @digits d ds hd hzero hds =>
    have hspace := not_isSpace_of_isDigit hd
    have hstart : d ≠ 110 ∧ d ≠ 116 ∧ d ≠ 102 ∧ d ≠ 45 :=
      ⟨ne_of_isDigit hd (by decide), ne_of_isDigit hd (by decide), ne_of_isDigit hd (by decide),
        ne_of_isDigit hd (by decide)⟩
    refine ⟨.digits, by simp, ?_⟩
    have hnext : (SkipState.mk place frames).step d = .next ⟨.digits, frames⟩ := by
      rcases hplace with rfl | rfl <;>
        simp [SkipState.step, startValue, hspace, hstart, hzero, hd]
    rw [List.cons_append, skipFrom_next hnext, skipFrom_digits (by simp) hds]

theorem skipFrom_fraction (hplace : place ∈ [.zero, .digits]) {fraction : List UInt8}
    (h : IsFraction fraction) (frames : List Frame) (rest : List UInt8) :
    ∃ place' ∈ [Place.zero, .digits, .fraction],
      skipFrom ⟨place, frames⟩ (fraction ++ rest) = skipFrom ⟨place', frames⟩ rest := by
  simp only [List.mem_cons, List.not_mem_nil, or_false] at hplace
  cases h with
  | none =>
    refine ⟨place, ?_, rfl⟩
    rcases hplace with rfl | rfl <;> simp
  | @digits d ds hds =>
    obtain ⟨hd, hds⟩ := List.forall_mem_cons.1 hds
    have hpoint : (SkipState.mk place frames).step 46 = .next ⟨.point, frames⟩ := by
      rcases hplace with rfl | rfl <;> rfl
    have hdigit : (SkipState.mk .point frames).step d = .next ⟨.fraction, frames⟩ := if_pos hd
    refine ⟨.fraction, by simp, ?_⟩
    rw [List.cons_append, List.cons_append, skipFrom_next hpoint, skipFrom_next hdigit,
      skipFrom_digits (by simp) hds]

theorem skipFrom_exponent (hplace : place ∈ [.zero, .digits, .fraction]) {exponent : List UInt8}
    (h : IsExponent exponent) (frames : List Frame) (rest : List UInt8) :
    ∃ place' ∈ numberEnds,
      skipFrom ⟨place, frames⟩ (exponent ++ rest) = skipFrom ⟨place', frames⟩ rest := by
  simp only [List.mem_cons, List.not_mem_nil, or_false] at hplace
  cases h with
  | none =>
    refine ⟨place, ?_, rfl⟩
    rcases hplace with rfl | rfl | rfl <;> decide
  | @digits e sign d ds he hsign hds =>
    obtain ⟨hd, hds⟩ := List.forall_mem_cons.1 hds
    have hletter : (SkipState.mk place frames).step e = .next ⟨.exponent, frames⟩ := by
      rcases hplace with rfl | rfl | rfl <;> rcases he with rfl | rfl <;> rfl
    have hsigned : skipFrom ⟨.exponent, frames⟩ (sign ++ d :: (ds ++ rest)) =
        skipFrom ⟨.exponentDigits, frames⟩ (ds ++ rest) := by
      have hunsigned : d ≠ 43 ∧ d ≠ 45 :=
        ⟨ne_of_isDigit hd (by decide), ne_of_isDigit hd (by decide)⟩
      simp only [List.mem_cons, List.not_mem_nil, or_false] at hsign
      rcases hsign with rfl | rfl | rfl <;> simp [skipFrom, SkipState.step, hunsigned, hd]
    refine ⟨.exponentDigits, by decide, ?_⟩
    rw [List.cons_append, skipFrom_next hletter, List.append_assoc, List.cons_append, hsigned,
      skipFrom_digits (by simp) hds]

theorem skipFrom_number {v : List UInt8} (h : IsNumber v) (frames : List Frame)
    (hrest : Delimited rest) :
    skipFrom ⟨.value, frames⟩ (v ++ rest) = skipFrom ⟨.after, frames⟩ rest := by
  obtain ⟨hsign, hwhole, hfraction, hexponent⟩ := h
  rename_i sign whole fraction exponent
  have hsigned : ∃ place ∈ [Place.value, .minus], ∀ text,
      skipFrom ⟨.value, frames⟩ (sign ++ text) = skipFrom ⟨place, frames⟩ text := by
    rcases List.mem_pair.1 hsign with rfl | rfl
    · exact ⟨.value, by simp, fun _ => rfl⟩
    · exact ⟨.minus, by simp, fun _ => rfl⟩
  obtain ⟨place₁, hplace₁, hskip₁⟩ := hsigned
  obtain ⟨place₂, hplace₂, hskip₂⟩ :=
    skipFrom_whole hplace₁ hwhole frames (fraction ++ (exponent ++ rest))
  obtain ⟨place₃, hplace₃, hskip₃⟩ := skipFrom_fraction hplace₂ hfraction frames (exponent ++ rest)
  obtain ⟨place₄, hplace₄, hskip₄⟩ := skipFrom_exponent hplace₃ hexponent frames rest
  simp only [List.append_assoc]
  rw [hskip₁, hskip₂, hskip₃, hskip₄, skipFrom_numberEnd hplace₄ hrest]

/-! ## Lists and objects -/

/-- Where the check stands before an element: after the opening, or after another element. -/
def beforeElement (isFirst : Bool) : Place := if isFirst then .opened else .after

/-- A value is passed over whatever is open and whatever comes next. -/
def Skipped (v : List UInt8) : Prop :=
  ∀ frames rest, Delimited rest →
    skipFrom ⟨.value, frames⟩ (v ++ rest) = skipFrom ⟨.after, frames⟩ rest

theorem skipFrom_close (hpad : IsPad pad) (frames : List Frame) (rest : List UInt8) :
    skipFrom ⟨beforeElement isFirst, .list :: frames⟩ (pad ++ 93 :: rest) =
      skipFrom ⟨.after, frames⟩ rest ∧
    skipFrom ⟨beforeElement isFirst, .object :: frames⟩ (pad ++ 125 :: rest) =
      skipFrom ⟨.after, frames⟩ rest := by
  cases isFirst with
  | true => exact ⟨skipFrom_pad (by decide) hpad _ _, skipFrom_pad (by decide) hpad _ _⟩
  | false => exact ⟨skipFrom_pad_after hpad _ _ _, skipFrom_pad_after hpad _ _ _⟩

/-- The elements of a list are passed over up to its closing bracket. -/
theorem skipFrom_elements {vs : List (List UInt8)} (h : Sequence 93 Eq isFirst vs text)
    (hvs : ∀ v ∈ vs, IsValue v ∧ Skipped v) (frames : List Frame) (rest : List UInt8) :
    skipFrom ⟨beforeElement isFirst, .list :: frames⟩ (text ++ rest) =
      skipFrom ⟨.after, frames⟩ rest := by
  induction h with
  | closed hpad =>
    rw [List.append_assoc]
    exact (skipFrom_close hpad frames rest).1
  | @next isFirst separator v piece vs text hseparator hv htext ih =>
    subst hv
    obtain ⟨⟨hvalue, hskipped⟩, hvs⟩ := List.forall_mem_cons.1 hvs
    have hrest : Delimited (text ++ rest) := htext.delimited (.inl rfl) rest
    have hvalue : skipFrom ⟨beforeElement isFirst, .list :: frames⟩ (separator ++ (v ++ (text ++ rest))) =
        skipFrom ⟨.value, .list :: frames⟩ (v ++ (text ++ rest)) := by
      cases hseparator with
      | first hpad =>
        obtain ⟨b, v', rfl, hspace, hclose, -⟩ := hvalue.start
        have hopened : (SkipState.mk .opened (.list :: frames)).step b =
            (SkipState.mk .value (.list :: frames)).step b := by
          simp [SkipState.step, afterOpening, hspace, hclose]
        rw [beforeElement, if_pos rfl, skipFrom_pad (by decide) hpad, List.cons_append, skipFrom,
          skipFrom, hopened]
      | comma hbefore hafter =>
        rw [List.append_assoc, beforeElement, if_neg (by decide), skipFrom_pad_after hbefore]
        exact skipFrom_pad (by decide) hafter _ _
    rw [List.append_assoc, List.append_assoc, hvalue, hskipped _ _ hrest]
    exact ih hvs

theorem skipFrom_members {ps : List Pair} (h : Sequence 125 Pair.Written isFirst ps text)
    (hkeys : ∀ p ∈ ps, IsLiteral p.literal) (hvalues : ∀ p ∈ ps, Skipped p.value)
    (frames : List Frame) (rest : List UInt8) :
    skipFrom ⟨beforeElement isFirst, .object :: frames⟩ (text ++ rest) =
      skipFrom ⟨.after, frames⟩ rest := by
  induction h with
  | closed hpad =>
    rw [List.append_assoc]
    exact (skipFrom_close hpad frames rest).2
  | @next isFirst separator p piece ps text hseparator hp htext ih =>
    obtain ⟨middle, gap, hmiddle, hgap, rfl⟩ := hp
    obtain ⟨hkey, hkeys⟩ := List.forall_mem_cons.1 hkeys
    obtain ⟨hvalue, hvalues⟩ := List.forall_mem_cons.1 hvalues
    -- In front of the value there are a quote, the key, another quote and a colon.
    have hquote (text : List UInt8) :
        skipFrom ⟨beforeElement isFirst, .object :: frames⟩ (separator ++ 34 :: text) =
          skipFrom ⟨.text true, .object :: frames⟩ text := by
      cases hseparator with
      | first hpad => exact skipFrom_pad (by decide) hpad _ _
      | comma hbefore hafter =>
        rw [List.append_assoc, beforeElement, if_neg (by decide), skipFrom_pad_after hbefore]
        exact skipFrom_pad (by decide) hafter _ _
    have hclosed (text : List UInt8) : skipFrom ⟨.text true, .object :: frames⟩ (34 :: text) =
        skipFrom ⟨.colon, .object :: frames⟩ text := rfl
    have hcolon (text : List UInt8) : skipFrom ⟨.colon, .object :: frames⟩ (58 :: text) =
        skipFrom ⟨.value, .object :: frames⟩ text := rfl
    simp only [List.append_assoc, List.cons_append]
    rw [hquote, skipFrom_literal hkey, hclosed, skipFrom_pad (by decide) hmiddle, hcolon,
      skipFrom_pad (by decide) hgap, hvalue _ _ (htext.delimited (.inr rfl) rest)]
    exact ih hkeys hvalues

/-! ## Values -/

/-- A JSON value is passed over exactly. -/
theorem skipFrom_value {v : List UInt8} (h : IsValue v) : Skipped v := by
  induction h with
  | word h => exact fun frames rest _ => skipFrom_word h frames rest
  | number h => exact fun frames rest hrest => skipFrom_number h frames hrest
  | text h =>
    intro frames rest _
    have hopen (text : List UInt8) : skipFrom ⟨.value, frames⟩ (34 :: text) =
        skipFrom ⟨.text false, frames⟩ text := rfl
    rw [List.cons_append, hopen, List.append_assoc, skipFrom_literal h]
    rfl
  | list h hvs ih =>
    exact fun frames rest _ => skipFrom_elements h (fun v hv => ⟨hvs v hv, ih v hv⟩) frames rest
  | object h hkeys _ ih =>
    exact fun frames rest _ => skipFrom_members h hkeys ih frames rest

theorem skipValue_value {v : List UInt8} (h : IsValue v) (hrest : Delimited rest) (hpad : IsPad pad) :
    skipValue (pad ++ (v ++ rest)) = .ok rest := by
  rw [skipValue, skipFrom_pad (by decide) hpad, skipFrom_value h [] rest hrest]
  cases rest <;> rfl

end BuildFleet.Json
