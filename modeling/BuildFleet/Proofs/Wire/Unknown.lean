import BuildFleet.Proofs.Wire.Field
/-!
# Fields that are not known

A newer server may send fields that a message does not know. What a well-formed field is, is said without
the reader (`IsField`): a key, a value laid out as the key says, and groups of such fields, up to as many
levels as may be nested. Numbers count however they are spelled, so also in more bytes than they need.
Reading the key of a field and skipping its value takes exactly its bytes (`IsField.skipped`), and so it
leaves a message as it is wherever it stands (`IsField.merges`).
-/
namespace BuildFleet.Wire

/-! ## Numbers and keys as they may be spelled -/

/-- The number that bytes spell: seven bits of each, the least significant first. -/
def spelled (bytes : List UInt8) : Nat := bytes.foldr (fun b n => b.toNat % 128 + 128 * n) 0

/-- The bytes spell a number of 64 bits, though not always as short as can be: all but the last say that
more follow, and of ten the last has only one bit. -/
def IsNumber (bytes : List UInt8) : Prop :=
  ∃ front last, bytes = front ++ [last] ∧ (∀ b ∈ front, 128 ≤ b) ∧ last < 128 ∧ front.length ≤ 9 ∧
    (front.length = 9 → last < 2)

structure IsKey (tag : Nat) (layout : WireType) (bytes : List UInt8) : Prop where
  isNumber : IsNumber bytes
  spelled_eq : spelled bytes = tag * 8 + layout.number
  tag_ne_zero : tag ≠ 0
  tag_small : tag * 8 + 7 < UInt32.size

theorem readVarintFrom_append {front : List UInt8} {last : UInt8} {more : Nat}
    (hfront : ∀ b ∈ front, 128 ≤ b) (hlast : last < 128) (hlength : front.length ≤ more)
    (hfull : front.length = more → last < 2) (rest : List UInt8) :
    readVarintFrom more (front ++ [last] ++ rest) = .ok (spelled (front ++ [last]), rest) := by
  induction front generalizing more with
  | nil =>
    have hsmall : last.toNat < 128 := UInt8.lt_iff_toNat_lt.1 hlast
    have hspelled : spelled [last] = last.toNat := by
      show last.toNat % 128 + 128 * 0 = last.toNat
      omega
    cases more with
    | zero => simp [readVarintFrom, hfull rfl, hspelled]
    | succ more => simp [readVarintFrom, hlast, hspelled]
  | cons b front ih =>
    obtain ⟨hb, hfront⟩ := List.forall_mem_cons.1 hfront
    obtain ⟨more, rfl⟩ : ∃ k, more = k + 1 := ⟨more - 1, by simp at hlength; omega⟩
    have hbig : ¬b < 128 := UInt8.not_lt.2 hb
    have hbits : b.toNat % 128 = b.toNat - 128 := by
      have hle : 128 ≤ b.toNat := UInt8.le_iff_toNat_le.1 hb
      have hlt := b.toNat_lt
      omega
    have hrest := ih hfront (Nat.le_of_succ_le_succ hlength) fun he => hfull (congrArg (· + 1) he)
    simp only [List.cons_append, readVarintFrom, if_neg hbig, hrest]
    show Except.ok (b.toNat - 128 + 128 * spelled (front ++ [last]), rest) =
      .ok (b.toNat % 128 + 128 * spelled (front ++ [last]), rest)
    rw [hbits]

variable {bytes field : List UInt8} {tag levels : Nat} {layout : WireType}

theorem IsNumber.readVarint (h : IsNumber bytes) (rest : List UInt8) :
    readVarint (bytes ++ rest) = .ok (spelled bytes, rest) := by
  obtain ⟨front, last, rfl, hfront, hlast, hlength, hfull⟩ := h
  exact readVarintFrom_append hfront hlast hlength hfull rest

theorem IsKey.readKey (h : IsKey tag layout bytes) (rest : List UInt8) :
    readKey (bytes ++ rest) = .ok ((tag, layout), rest) := by
  have hnumber := h.isNumber.readVarint rest
  rw [h.spelled_eq] at hnumber
  exact readKey_of_readVarint h.tag_ne_zero h.tag_small hnumber

/-! ## Well-formed fields -/

/-- The bytes of fields that stand one after another, each with its tag. -/
def bytesOf (fields : List (Nat × List UInt8)) : List UInt8 := fields.flatMap Prod.snd

theorem bytesOf_cons (f : Nat × List UInt8) (fields : List (Nat × List UInt8)) :
    bytesOf (f :: fields) = f.2 ++ bytesOf fields := List.flatMap_cons

/-- The bytes are one well-formed field with a tag, whatever it means. It takes a level by itself, and a
group has the fields in it on the levels below. -/
inductive IsField : Nat → Nat → List UInt8 → Prop where
  | varint {levels tag key value} (hkey : IsKey tag .varint key) (hvalue : IsNumber value) :
    IsField (levels + 1) tag (key ++ value)
  | sixtyFourBit {levels tag key value} (hkey : IsKey tag .sixtyFourBit key)
    (hvalue : value.length = 8) : IsField (levels + 1) tag (key ++ value)
  | thirtyTwoBit {levels tag key value} (hkey : IsKey tag .thirtyTwoBit key)
    (hvalue : value.length = 4) : IsField (levels + 1) tag (key ++ value)
  | lengthDelimited {levels tag key length content} (hkey : IsKey tag .lengthDelimited key)
    (hlength : IsNumber length) (hcontent : spelled length = content.length) :
    IsField (levels + 1) tag (key ++ (length ++ content))
  | group {levels tag first last} {fields : List (Nat × List UInt8)}
    (hfirst : IsKey tag .startGroup first) (hfields : ∀ f ∈ fields, IsField levels f.1 f.2)
    (hlast : IsKey tag .endGroup last) : IsField (levels + 1) tag (first ++ (bytesOf fields ++ last))

/-- The key of a field is read and its value skipped, exactly as far as the field goes. -/
def Skips (levels tag : Nat) (bytes : List UInt8) : Prop :=
  ∀ rest, ∃ layout value, layout ≠ .endGroup ∧
    readKey (bytes ++ rest) = .ok ((tag, layout), value) ∧
    skipField levels tag layout value = .ok rest

theorem Skips.length_pos (h : Skips levels tag bytes) : 0 < bytes.length := by
  cases bytes with
  | nil =>
    obtain ⟨layout, value, -, hkey, -⟩ := h []
    exact nomatch hkey
  | cons => exact Nat.zero_lt_succ _

theorem length_le_bytesOf {fields : List (Nat × List UInt8)} (h : ∀ f ∈ fields, 0 < f.2.length) :
    fields.length ≤ (bytesOf fields).length := by
  induction fields with
  | nil => exact Nat.le_refl 0
  | cons f fields ih =>
    obtain ⟨hf, hfields⟩ := List.forall_mem_cons.1 h
    have hle := ih hfields
    rw [bytesOf_cons, List.length_append, List.length_cons]
    omega

/-- The fields of a group are skipped one after another, up to the key that ends it. -/
theorem skipGroup_bytesOf {fields : List (Nat × List UInt8)} {last : List UInt8} {bound : Nat}
    (hfields : ∀ f ∈ fields, Skips levels f.1 f.2) (hlast : IsKey tag .endGroup last)
    (hbound : fields.length < bound) (rest : List UInt8) :
    skipGroup (skipField levels) tag bound (bytesOf fields ++ (last ++ rest)) = .ok rest := by
  induction fields generalizing bound with
  | nil =>
    obtain ⟨bound, rfl⟩ : ∃ k, bound = k + 1 := ⟨bound - 1, by simp at hbound; omega⟩
    show skipGroup (skipField levels) tag (bound + 1) (last ++ rest) = .ok rest
    simp only [skipGroup, hlast.readKey, bind, Except.bind, if_pos]
    rfl
  | cons f fields ih =>
    obtain ⟨hf, hfields⟩ := List.forall_mem_cons.1 hfields
    obtain ⟨bound, rfl⟩ : ∃ k, bound = k + 1 := ⟨bound - 1, by omega⟩
    obtain ⟨layout, value, hlayout, hkey, hskip⟩ := hf (bytesOf fields ++ (last ++ rest))
    rw [bytesOf_cons, List.append_assoc, skipGroup, hkey]
    simp only [bind, Except.bind, if_neg hlayout, hskip]
    exact ih hfields (Nat.lt_of_succ_lt_succ hbound)

/-- **A well-formed field is skipped exactly**, with all the groups in it. -/
theorem IsField.skipped (h : IsField levels tag bytes) : Skips levels tag bytes := by
  induction h with
  | varint hkey hvalue =>
    intro rest
    rw [List.append_assoc]
    refine ⟨.varint, _, nofun, hkey.readKey _, ?_⟩
    simp [skipField, hvalue.readVarint, bind, Except.bind, pure, Except.pure]
  | sixtyFourBit hkey hvalue =>
    intro rest
    rw [List.append_assoc]
    refine ⟨.sixtyFourBit, _, nofun, hkey.readKey _, ?_⟩
    simp [skipField, take_append hvalue, bind, Except.bind, pure, Except.pure]
  | thirtyTwoBit hkey hvalue =>
    intro rest
    rw [List.append_assoc]
    refine ⟨.thirtyTwoBit, _, nofun, hkey.readKey _, ?_⟩
    simp [skipField, take_append hvalue, bind, Except.bind, pure, Except.pure]
  | lengthDelimited hkey hlength hcontent =>
    intro rest
    rw [List.append_assoc, List.append_assoc]
    refine ⟨.lengthDelimited, _, nofun, hkey.readKey _, ?_⟩
    simp [skipField, readDelimited, hlength.readVarint, take_append hcontent.symm, bind, Except.bind,
      pure, Except.pure]
  | group hfirst hfields hlast ih =>
    rename_i levels tag first last fields
    intro rest
    rw [List.append_assoc, List.append_assoc]
    refine ⟨.startGroup, _, nofun, hfirst.readKey _, ?_⟩
    -- Each field has a byte at least, so the bound on the bytes is one on the fields.
    have hcount : fields.length ≤ (bytesOf fields).length :=
      length_le_bytesOf fun f hf => (ih f hf).length_pos
    have hbound : fields.length < (bytesOf fields ++ (last ++ rest)).length + 1 := by
      rw [List.length_append]
      omega
    exact skipGroup_bytesOf ih hlast hbound rest

/-- A field that the message does not know leaves it as it is. -/
theorem IsField.merges {μ : Type} {merge : Merge μ} (h : IsField levels tag field) {m : μ}
    (hunknown : ∀ layout bytes, merge tag layout m bytes = do
      return (m, ← skipField levels tag layout bytes)) : Merges merge field m m := by
  intro rest
  obtain ⟨layout, value, -, hkey, hskip⟩ := h.skipped rest
  simp only [hkey, bind, Except.bind, hunknown, hskip]
  rfl

end BuildFleet.Wire
