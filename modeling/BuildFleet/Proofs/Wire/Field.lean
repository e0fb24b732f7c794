import BuildFleet.Wire.Field
/-!
# Merging what was written

A field that stands at the front of the bytes turns one message into another and leaves the bytes
behind it (`Merges`); a run of fields does so field by field (`MergesAll`). Where the fields of some
bytes lead from the blank message to `m`, these bytes are decoded as `m` (`decode_eq_ok`), and as the
value of a field they are merged as a message (`MergesAll.mergeMessage`). So a message is read back
once each of its fields is.
-/
namespace BuildFleet.Wire

/-! ## Values -/

theorem readKey_of_readVarint {tag : Nat} {layout : WireType} {bytes rest : List UInt8}
    (hpos : tag ≠ 0) (htag : tag * 8 + 7 < UInt32.size)
    (h : readVarint bytes = .ok (tag * 8 + layout.number, rest)) :
    readKey bytes = .ok ((tag, layout), rest) := by
  have hlayout : layout.number < 8 := by cases layout <;> decide
  have hsmall : ¬UInt32.size ≤ tag * 8 + layout.number := by omega
  have hmod : (tag * 8 + layout.number) % 8 = layout.number := by omega
  have hdiv : (tag * 8 + layout.number) / 8 = tag := by omega
  unfold readKey
  rw [h]
  simp only [bind, Except.bind, if_neg hsmall, hmod, hdiv, WireType.ofNumber_number, if_neg hpos]
  rfl

theorem readKey_key {tag : Nat} (layout : WireType) (hpos : tag ≠ 0) (htag : tag * 8 + 7 < UInt32.size)
    (rest : List UInt8) : readKey (key tag layout ++ rest) = .ok ((tag, layout), rest) := by
  have hlayout : layout.number < 8 := by cases layout <;> decide
  have hsize : tag * 8 + layout.number < UInt64.size := by
    simp only [UInt32.size, UInt64.size] at *
    omega
  exact readKey_of_readVarint hpos htag (readVarint_varint _ hsize rest)

theorem take_append {content : List UInt8} {length : Nat} (h : content.length = length)
    (rest : List UInt8) : take length (content ++ rest) = .ok (content, rest) := by
  subst h
  have henough : ¬(content ++ rest).length < content.length := by
    rw [List.length_append]
    omega
  simp only [take, if_neg henough, List.take_left, List.drop_left]

/-- Bytes with their length in front are read back, whatever follows them. -/
theorem readDelimited_append {content : List UInt8} (h : content.length < UInt64.size)
    (rest : List UInt8) :
    readDelimited (varint content.length ++ content ++ rest) = .ok (content, rest) := by
  unfold readDelimited
  rw [List.append_assoc, readVarint_varint _ h]
  exact take_append rfl rest

theorem readText_append {s : String} (h : (Utf8.encode s).length < UInt64.size)
    (rest : List UInt8) :
    readText .lengthDelimited
        (varint (Utf8.encode s).length ++ Utf8.encode s ++ rest) = .ok (s, rest) := by
  unfold readText
  simp only [bind, Except.bind, expectLayout, if_pos, readDelimited_append h, Utf8.decode?_encode]
  rfl

theorem readNumber_append {n : Nat} (h : n < UInt64.size) (rest : List UInt8) :
    readNumber .varint (varint n ++ rest) = .ok (n, rest) := by
  unfold readNumber
  simp only [bind, Except.bind, expectLayout, if_pos, readVarint_varint n h]

/-! ## Fields -/

/-- The bytes are one field, which turns `m` into `m'` wherever it stands. -/
def Merges {μ : Type} (merge : Merge μ) (field : List UInt8) (m m' : μ) : Prop :=
  ∀ rest, (do
    let ((tag, layout), rest) ← readKey (field ++ rest)
    merge tag layout m rest) = .ok (m', rest)

/-- The bytes are a run of fields, which turn `m` into `m'` one after another. -/
inductive MergesAll {μ : Type} (merge : Merge μ) : List UInt8 → μ → μ → Prop where
  | nil {m} : MergesAll merge [] m m
  | cons {field fields m m' m''} (h : Merges merge field m m') (hs : MergesAll merge fields m' m'') :
    MergesAll merge (field ++ fields) m m''

variable {μ : Type} {merge : Merge μ} {bytes more field : List UInt8} {m m' m'' : μ}

theorem Merges.length_pos (h : Merges merge field m m') : 0 < field.length := by
  cases field with
  | nil => exact nomatch h []
  | cons => exact Nat.zero_lt_succ _

theorem MergesAll.of_merges (h : Merges merge field m m') : MergesAll merge field m m' := by
  have hcons := MergesAll.cons h .nil
  rwa [List.append_nil] at hcons

theorem MergesAll.append (h : MergesAll merge bytes m m') (hmore : MergesAll merge more m' m'') :
    MergesAll merge (bytes ++ more) m m'' := by
  induction h with
  | nil => exact hmore
  | cons hfield hs ih =>
    rw [List.append_assoc]
    exact .cons hfield (ih hmore)

/-- A field with a known tag: its key in front, and behind it what the message makes of the value. -/
theorem Merges.of_key {tag : Nat} {layout : WireType} {value : List UInt8} (hpos : tag ≠ 0)
    (htag : tag * 8 + 7 < UInt32.size) (h : ∀ rest, merge tag layout m (value ++ rest) = .ok (m', rest)) :
    Merges merge (key tag layout ++ value) m m' := by
  intro rest
  rw [List.append_assoc, readKey_key layout hpos htag]
  exact h rest

theorem mergeFields_cons {stop bound : Nat} {rest : List UInt8} (h : Merges merge field m m')
    (hstop : stop ≤ rest.length) :
    mergeFields merge stop (bound + 1) m (field ++ rest) = mergeFields merge stop bound m' rest := by
  have hlength : ¬(field ++ rest).length ≤ stop := by
    have hpos := h.length_pos
    rw [List.length_append]
    omega
  have hfield := h rest
  rw [mergeFields, if_neg hlength]
  cases hkey : readKey (field ++ rest) with
  | error fault =>
    rw [hkey] at hfield
    cases hfield
  | ok found =>
    rw [hkey] at hfield
    simp only [bind, Except.bind] at hfield ⊢
    rw [hfield]

theorem mergeFields_of_le {stop : Nat} (bound : Nat) (h : bytes.length ≤ stop) :
    mergeFields merge stop bound m bytes = .ok (m, bytes) := by
  cases bound with
  | zero => rfl
  | succ bound => rw [mergeFields, if_pos h]

/-- A run of fields is merged up to where it ends. -/
theorem MergesAll.mergeFields_eq (h : MergesAll merge bytes m m') {bound : Nat}
    (hbound : bytes.length ≤ bound) (rest : List UInt8) :
    mergeFields merge rest.length bound m (bytes ++ rest) = .ok (m', rest) := by
  induction h generalizing bound with
  | nil => exact mergeFields_of_le bound (Nat.le_refl _)
  | cons hfield hs ih =>
    rename_i field fields _ _ _
    have hpos := hfield.length_pos
    rw [List.length_append] at hbound
    obtain ⟨bound, rfl⟩ : ∃ k, bound = k + 1 := ⟨bound - 1, by omega⟩
    rw [List.append_assoc, mergeFields_cons hfield (by simp)]
    exact ih (by omega)

/-- A message is what its fields make of the blank one. -/
theorem decode_eq_ok {blank : μ} (h : MergesAll merge bytes blank m) :
    decode merge blank bytes = .ok m := by
  have hall := h.mergeFields_eq (Nat.le_succ _) []
  rw [List.append_nil] at hall
  unfold decode
  rw [List.length_nil] at hall
  rw [hall]
  rfl

/-- A message that is itself the value of a field is merged with its length in front. -/
theorem MergesAll.mergeMessage (h : MergesAll merge bytes m m') (hsize : bytes.length < UInt64.size)
    (rest : List UInt8) :
    mergeMessage merge .lengthDelimited m (varint bytes.length ++ bytes ++ rest) =
      .ok (m', rest) := by
  have hlength : (bytes ++ rest).length = bytes.length + rest.length := List.length_append
  have henough : ¬(bytes ++ rest).length < bytes.length := by omega
  have hstop : (bytes ++ rest).length - bytes.length = rest.length := by omega
  have hbound : bytes.length ≤ (bytes ++ rest).length + 1 := by omega
  have hall := h.mergeFields_eq hbound rest
  unfold Wire.mergeMessage
  rw [List.append_assoc]
  simp only [bind, Except.bind, expectLayout, if_pos, readVarint_varint _ hsize, if_neg henough,
    hstop, hall]
  rfl

/-! ## Written fields -/

/-- The bytes are a number field, which may be left out where the number is zero. -/
def WritesNumber (tag n : Nat) (field : List UInt8) : Prop :=
  field = key tag .varint ++ varint n ∨ n = 0 ∧ field = []

/-- The bytes are a text field, which may be left out where the text is empty. -/
def WritesText (tag : Nat) (s : String) (field : List UInt8) : Prop :=
  field = delimitedField tag (Utf8.encode s) ∨ s = "" ∧ field = []

theorem writesNumber_numberField (tag n : Nat) : WritesNumber tag n (numberField tag n) := by
  unfold numberField
  split
  · exact .inr ⟨‹n = 0›, rfl⟩
  · exact .inl rfl

theorem writesText_textField (tag : Nat) (s : String) : WritesText tag s (textField tag s) := by
  unfold textField
  split
  · exact .inr ⟨String.isEmpty_iff.1 ‹_›, rfl⟩
  · exact .inl rfl

theorem length_le_delimitedField (tag : Nat) (content : List UInt8) :
    content.length ≤ (delimitedField tag content).length := by
  unfold delimitedField
  simp only [List.length_append]
  omega

theorem merges_delimitedField {tag : Nat} {content : List UInt8} (hpos : tag ≠ 0)
    (htag : tag * 8 + 7 < UInt32.size)
    (h : ∀ rest, merge tag .lengthDelimited m (varint content.length ++ content ++ rest) =
      .ok (m', rest)) :
    Merges merge (delimitedField tag content) m m' := by
  unfold delimitedField
  rw [List.append_assoc]
  exact .of_key hpos htag h

/-- A number field brings its value; where it is left out the message already has it. -/
theorem WritesNumber.mergesAll {tag n : Nat} (h : WritesNumber tag n field) (hpos : tag ≠ 0)
    (htag : tag * 8 + 7 < UInt32.size) (hzero : n = 0 → m' = m)
    (hvalue : ∀ rest, merge tag .varint m (varint n ++ rest) = .ok (m', rest)) :
    MergesAll merge field m m' := by
  obtain rfl | ⟨hn, rfl⟩ := h
  · exact .of_merges (.of_key hpos htag hvalue)
  · rw [hzero hn]
    exact .nil

theorem WritesText.mergesAll {tag : Nat} {s : String} (h : WritesText tag s field) (hpos : tag ≠ 0)
    (htag : tag * 8 + 7 < UInt32.size) (hsize : field.length < UInt64.size) (hempty : s = "" → m' = m)
    (hvalue : (Utf8.encode s).length < UInt64.size → ∀ rest, merge tag .lengthDelimited m
      (varint (Utf8.encode s).length ++ Utf8.encode s ++ rest) = .ok (m', rest)) :
    MergesAll merge field m m' := by
  obtain rfl | ⟨hs, rfl⟩ := h
  · have hlength := length_le_delimitedField tag (Utf8.encode s)
    exact .of_merges (merges_delimitedField hpos htag (hvalue (by omega)))
  · rw [hempty hs]
    exact .nil

end BuildFleet.Wire
