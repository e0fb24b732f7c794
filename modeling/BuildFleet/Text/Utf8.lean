/-!
# UTF-8

Texts as bytes. `decode?` takes exactly the bytes that `encode` gives (`decode?_encode`,
`encode_of_decode?`). `decodeLossy` takes all bytes: each maximal piece that no encoding of a
character could continue is read as U+FFFD.
-/
namespace BuildFleet.Utf8

def encode (s : String) : List UInt8 := s.toByteArray.data.toList

def decode? (bytes : List UInt8) : Option String := String.fromUTF8? ⟨bytes.toArray⟩

theorem decode?_encode (s : String) : decode? (encode s) = some s := by
  have h : (⟨s.toByteArray.data.toList.toArray⟩ : ByteArray) = s.toByteArray := rfl
  simp only [decode?, encode, h, String.fromUTF8?]
  rw [dif_pos s.isValidUTF8]
  rfl

theorem encode_of_decode? {bytes : List UInt8} {s : String} (h : decode? bytes = some s) :
    encode s = bytes := by
  simp only [decode?, String.fromUTF8?] at h
  split at h
  · cases h
    simp [encode, String.fromUTF8]
  · cases h

theorem encode_injective {s t : String} (h : encode s = encode t) : s = t := by
  have hs := decode?_encode s
  rw [h, decode?_encode t] at hs
  exact (Option.some.inj hs).symm

theorem encode_append (s t : String) : encode (s ++ t) = encode s ++ encode t := by
  simp [encode]

/-- The order of texts by their bytes. -/
def le (s t : String) : Bool := decide (encode s ≤ encode t)

/-! ## Reading malformed bytes -/

/-- The bytes that may follow a lead byte, and how many continuation bytes make the character:
`(low, high, more)`. The first continuation byte lies in `low … high`; the `more` after it are
plain. -/
def leadRange (b : Nat) : Option (Nat × Nat × Nat) :=
  if 0xC2 ≤ b ∧ b ≤ 0xDF then some (0x80, 0xBF, 0)
  else if b = 0xE0 then some (0xA0, 0xBF, 1)
  else if b = 0xED then some (0x80, 0x9F, 1)
  else if 0xE1 ≤ b ∧ b ≤ 0xEF then some (0x80, 0xBF, 1)
  else if b = 0xF0 then some (0x90, 0xBF, 2)
  else if 0xF1 ≤ b ∧ b ≤ 0xF3 then some (0x80, 0xBF, 2)
  else if b = 0xF4 then some (0x80, 0x8F, 2)
  else none

/-- A character being read: its value so far, the range of the next byte and how many plain
continuation bytes come after that one. -/
structure Pending where
  value : Nat
  low : Nat
  high : Nat
  more : Nat

def leadValue (b : Nat) : Nat :=
  if b < 0xE0 then b - 0xC0 else if b < 0xF0 then b - 0xE0 else b - 0xF0

/-- A byte that starts a character: what it writes at once, and what it leaves pending. -/
def startByte (b : UInt8) : List Char × Option Pending :=
  let n := b.toNat
  if n < 0x80 then ([Char.ofNat n], none)
  else match leadRange n with
    | some (low, high, more) => ([], some ⟨leadValue n, low, high, more⟩)
    | none => (['\uFFFD'], none)

/-- One more byte, given what is pending. -/
def feed (pending : Option Pending) (b : UInt8) : List Char × Option Pending :=
  match pending with
  | none => startByte b
  | some p =>
    let n := b.toNat
    if p.low ≤ n ∧ n ≤ p.high then
      let value := p.value * 64 + (n - 0x80)
      match p.more with
      | 0 => ([Char.ofNat value], none)
      | more + 1 => ([], some ⟨value, 0x80, 0xBF, more⟩)
    else
      let (written, next) := startByte b
      ('\uFFFD' :: written, next)

/-- The characters of the bytes, given what is pending. -/
def lossyFrom (pending : Option Pending) : List UInt8 → List Char
  | [] => if pending.isSome then ['\uFFFD'] else []
  | b :: rest =>
    let (written, next) := feed pending b
    written ++ lossyFrom next rest

/-- How many bytes at the front are well formed, given what is pending and how many bytes that
took: counting stops at the last whole character before something malformed or unfinished. -/
def wellFormedFrom (pending : Option Pending) (held : Nat) : List UInt8 → Nat
  | [] => 0
  | b :: rest =>
    match feed pending b with
    | ([], some p) => wellFormedFrom (some p) (held + 1) rest
    | ([c], none) =>
      if c = '\uFFFD' ∧ held ≠ 2 then 0 else held + 1 + wellFormedFrom none 0 rest
    | _ => 0

def wellFormedLength (bytes : List UInt8) : Nat := wellFormedFrom none 0 bytes

/-- The text of the bytes, with U+FFFD in place of what is malformed. -/
def decodeLossy (bytes : List UInt8) : String := String.ofList (lossyFrom none bytes)

end BuildFleet.Utf8
