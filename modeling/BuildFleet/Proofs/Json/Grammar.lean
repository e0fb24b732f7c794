import BuildFleet.Json.Skip
import BuildFleet.Json.Text
import Mathlib.Data.List.Basic
/-!
# What a JSON value is

The grammar of JSON over bytes. `IsValue` admits every JSON value and says nothing of how one is read.
Objects are given by their pairs of a key and a value, with any white space between (`IsObject`), and
`Spells` says which text the bytes between two quotes stand for.
-/
namespace BuildFleet.Json

/-! ## The grammar -/

def IsPad (pad : List UInt8) : Prop := ∀ b ∈ pad, isSpace b = true

/-- What may stand before an element: white space, and a comma unless it is the first. -/
inductive Separates : Bool → List UInt8 → Prop where
  | first {pad} (h : IsPad pad) : Separates true pad
  | comma {before after} (h : IsPad before) (h' : IsPad after) :
    Separates false (before ++ 44 :: after)

/-- Elements, each written in some way, separated by commas, up to the byte that closes them. -/
inductive Sequence {α : Type} (close : UInt8) (Written : α → List UInt8 → Prop) :
    Bool → List α → List UInt8 → Prop where
  | closed {isFirst pad} (h : IsPad pad) : Sequence close Written isFirst [] (pad ++ [close])
  | next {isFirst separator x piece xs text} (hseparator : Separates isFirst separator)
    (hx : Written x piece) (h : Sequence close Written false xs text) :
    Sequence close Written isFirst (x :: xs) (separator ++ (piece ++ text))

/-- The bytes of a text between its quotes, not decoded. -/
inductive IsLiteral : List UInt8 → Prop where
  | nil : IsLiteral []
  | plain {b rest} (hquote : b ≠ 34) (hbackslash : b ≠ 92) (hcontrol : ¬b < 32)
    (h : IsLiteral rest) : IsLiteral (b :: rest)
  | escape {letter rest} (hletter : letter ∈ [34, 92, 47, 98, 102, 110, 114, 116])
    (h : IsLiteral rest) : IsLiteral (92 :: letter :: rest)
  | hex {digits rest} (hlength : digits.length = 4) (hdigits : ∀ d ∈ digits, (hexValue d).isSome)
    (h : IsLiteral rest) : IsLiteral (92 :: 117 :: (digits ++ rest))

/-- Digits without a superfluous zero. -/
inductive IsInteger : List UInt8 → Prop where
  | zero : IsInteger [48]
  | digits {d ds} (hd : isDigit d = true) (hzero : d ≠ 48) (hds : ∀ d ∈ ds, isDigit d = true) :
    IsInteger (d :: ds)

inductive IsFraction : List UInt8 → Prop where
  | none : IsFraction []
  | digits {d ds} (h : ∀ d' ∈ d :: ds, isDigit d' = true) : IsFraction (46 :: d :: ds)

inductive IsExponent : List UInt8 → Prop where
  | none : IsExponent []
  | digits {e sign d ds} (he : e = 101 ∨ e = 69) (hsign : sign ∈ [[], [43], [45]])
    (h : ∀ d' ∈ d :: ds, isDigit d' = true) : IsExponent (e :: (sign ++ d :: ds))

inductive IsNumber : List UInt8 → Prop where
  | mk {sign whole fraction exponent} (hsign : sign ∈ [[], [45]]) (hwhole : IsInteger whole)
    (hfraction : IsFraction fraction) (hexponent : IsExponent exponent) :
    IsNumber (sign ++ (whole ++ (fraction ++ exponent)))

/-- A member of an object: the bytes between the quotes of its key, and its value. -/
structure Pair where
  literal : List UInt8
  value : List UInt8
  deriving DecidableEq, Repr

/-- The bytes are the member, with white space around its colon. -/
def Pair.Written (p : Pair) (bytes : List UInt8) : Prop :=
  ∃ middle gap, IsPad middle ∧ IsPad gap ∧
    bytes = 34 :: (p.literal ++ 34 :: (middle ++ 58 :: (gap ++ p.value)))

inductive IsValue : List UInt8 → Prop where
  | word {v} (h : v ∈ [[110, 117, 108, 108], [116, 114, 117, 101], [102, 97, 108, 115, 101]]) :
    IsValue v
  | number {v} (h : IsNumber v) : IsValue v
  | text {literal} (h : IsLiteral literal) : IsValue (34 :: (literal ++ [34]))
  | list {vs text} (h : Sequence 93 Eq true vs text) (hvs : ∀ v ∈ vs, IsValue v) :
    IsValue (91 :: text)
  | object {ps text} (h : Sequence 125 Pair.Written true ps text)
    (hkeys : ∀ p ∈ ps, IsLiteral p.literal) (hvalues : ∀ p ∈ ps, IsValue p.value) :
    IsValue (123 :: text)

/-- The bytes are an object with the given members. -/
structure IsObject (ps : List Pair) (bytes : List UInt8) : Prop where
  written : ∃ text, bytes = 123 :: text ∧ Sequence 125 Pair.Written true ps text
  keys : ∀ p ∈ ps, IsLiteral p.literal
  values : ∀ p ∈ ps, IsValue p.value

theorem IsObject.isValue {ps : List Pair} {bytes : List UInt8} (h : IsObject ps bytes) :
    IsValue bytes := by
  obtain ⟨⟨text, rfl, hwritten⟩, hkeys, hvalues⟩ := h
  exact .object hwritten hkeys hvalues

/-- Members without any white space, up to the closing brace. -/
def membersOf (isFirst : Bool) : List Pair → List UInt8
  | [] => [125]
  | p :: ps =>
    (if isFirst then [] else [44]) ++ ((34 :: (p.literal ++ 34 :: 58 :: p.value)) ++ membersOf false ps)

def objectOf (ps : List Pair) : List UInt8 := 123 :: membersOf true ps

structure IsHex (digits : List UInt8) (value : Nat) : Prop where
  length : digits.length = 4
  isDigit : ∀ d ∈ digits, (hexValue d).isSome
  value_eq : value = digits.foldl (fun v d => v * 16 + (hexValue d).getD 0) 0

/-- What the letters after a backslash stand for. -/
def escapes : List (UInt8 × Char) := [(34, '"'), (92, '\\'), (47, '/'), (98, '\x08'), (102, '\x0c'),
  (110, '\n'), (114, '\r'), (116, '\t')]

/-- The text that the bytes between two quotes stand for. A character stands for itself, unless it has to be
escaped; any character may be written as its code point, as two halves if it is beyond the first plane. -/
inductive Spells : List UInt8 → List Char → Prop where
  | nil : Spells [] []
  | plain {c rest text} (hquote : c ≠ '"') (hbackslash : c ≠ '\\') (hcontrol : ' ' ≤ c)
    (h : Spells rest text) : Spells (String.utf8EncodeChar c ++ rest) (c :: text)
  | escape {letter c rest text} (hletter : (letter, c) ∈ escapes) (h : Spells rest text) :
    Spells (92 :: letter :: rest) (c :: text)
  | codePoint {digits} {c : Char} {rest text} (hc : IsHex digits c.toNat) (h : Spells rest text) :
    Spells (92 :: 117 :: (digits ++ rest)) (c :: text)
  | halves {digits digits' high low} {c : Char} {rest text} (hhigh : IsHex digits (0xD800 + high))
    (hlow : IsHex digits' (0xDC00 + low)) (hhigh' : high < 0x400) (hlow' : low < 0x400)
    (hc : c.toNat = 0x10000 + high * 0x400 + low) (h : Spells rest text) :
    Spells (92 :: 117 :: (digits ++ 92 :: 117 :: (digits' ++ rest))) (c :: text)

/-- The key of the member is the given text, however it is spelled. -/
def Pair.HasKey (p : Pair) (key : String) : Prop := Spells p.literal key.toList

/-- What may follow a value: white space, the byte that goes on with a list or an object or closes it, or
nothing. -/
def Delimited (rest : List UInt8) : Prop :=
  ∀ b ∈ rest.head?, b ∈ ([32, 10, 9, 13, 44, 93, 125] : List UInt8)

/-! ## Where the parts end -/

section
variable {α : Type} {close : UInt8} {Written : α → List UInt8 → Prop} {isFirst : Bool} {xs : List α}
  {pad text : List UInt8}

theorem isPad_nil : IsPad [] := by
  intro b hb
  cases hb

theorem Delimited.of_isPad (h : IsPad pad) {rest : List UInt8} (hrest : Delimited rest) :
    Delimited (pad ++ rest) := by
  cases pad with
  | nil => exact hrest
  | cons b pad =>
    intro b' hb'
    obtain rfl : b = b' := by simpa using hb'
    have hb := h b List.mem_cons_self
    simp only [isSpace, Bool.or_eq_true, beq_iff_eq] at hb
    rcases hb with ((rfl | rfl) | rfl) | rfl <;> decide

theorem Delimited.cons {b : UInt8} (h : b ∈ ([32, 10, 9, 13, 44, 93, 125] : List UInt8))
    (rest : List UInt8) : Delimited (b :: rest) := by
  intro b' hb'
  obtain rfl : b = b' := by simpa using hb'
  exact h

theorem sequence_membersOf (isFirst : Bool) (ps : List Pair) :
    Sequence 125 Pair.Written isFirst ps (membersOf isFirst ps) := by
  induction ps generalizing isFirst with
  | nil => exact .closed isPad_nil
  | cons p ps ih =>
    refine .next ?_ ⟨[], [], isPad_nil, isPad_nil, rfl⟩ (ih false)
    cases isFirst with
    | true => exact .first isPad_nil
    | false => exact .comma isPad_nil isPad_nil

theorem isObject_objectOf {ps : List Pair} (hkeys : ∀ p ∈ ps, IsLiteral p.literal)
    (hvalues : ∀ p ∈ ps, IsValue p.value) : IsObject ps (objectOf ps) :=
  ⟨⟨_, rfl, sequence_membersOf true ps⟩, hkeys, hvalues⟩

theorem Sequence.delimited (h : Sequence close Written false xs text)
    (hclose : close = 93 ∨ close = 125) (rest : List UInt8) : Delimited (text ++ rest) := by
  cases h with
  | closed hpad =>
    rw [List.append_assoc]
    refine .of_isPad hpad (.cons ?_ rest)
    rcases hclose with rfl | rfl <;> decide
  | next hseparator _ _ =>
    cases hseparator with
    | comma hbefore _ =>
      rw [List.append_assoc, List.append_assoc]
      exact .of_isPad hbefore (.cons (by decide) _)

theorem Sequence.length_lt (h : Sequence close Written isFirst xs text)
    (hne : ∀ x piece, Written x piece → piece ≠ []) : xs.length < text.length := by
  induction h with
  | closed _ => simp
  | @next _ separator _ piece _ _ _ hx _ ih =>
    have hpiece := List.length_pos_iff.2 (hne _ _ hx)
    simp only [List.length_cons, List.length_append]
    omega

end

theorem ne_of_isDigit {d c : UInt8} (hd : isDigit d = true) (hc : isDigit c = false) : d ≠ c := by
  rintro rfl
  rw [hd] at hc
  cases hc

theorem not_isSpace_of_isDigit {d : UInt8} (hd : isDigit d = true) : isSpace d = false := by
  have hne : d ≠ 32 ∧ d ≠ 10 ∧ d ≠ 9 ∧ d ≠ 13 :=
    ⟨ne_of_isDigit hd (by decide), ne_of_isDigit hd (by decide), ne_of_isDigit hd (by decide),
      ne_of_isDigit hd (by decide)⟩
  simp [isSpace, hne]

/-- A value starts with a byte that nothing else in a list or an object starts with. -/
theorem IsValue.start {v : List UInt8} (h : IsValue v) :
    ∃ b rest, v = b :: rest ∧ isSpace b = false ∧ b ≠ 93 ∧ b ≠ 44 ∧ b ≠ 125 := by
  have hdigit : ∀ d, isDigit d = true → isSpace d = false ∧ d ≠ 93 ∧ d ≠ 44 ∧ d ≠ 125 :=
    fun d hd => ⟨not_isSpace_of_isDigit hd, ne_of_isDigit hd (by decide),
      ne_of_isDigit hd (by decide), ne_of_isDigit hd (by decide)⟩
  cases h with
  | word h =>
    simp only [List.mem_cons, List.not_mem_nil, or_false] at h
    rcases h with rfl | rfl | rfl <;> exact ⟨_, _, rfl, by decide⟩
  | number h =>
    obtain ⟨hsign, hwhole, -, -⟩ := h
    rcases List.mem_pair.1 hsign with rfl | rfl
    · cases hwhole with
      | zero => exact ⟨48, _, rfl, by decide⟩
      | digits hd => exact ⟨_, _, rfl, hdigit _ hd⟩
    · exact ⟨45, _, rfl, by decide⟩
  | _ => exact ⟨_, _, rfl, by decide⟩

end BuildFleet.Json
