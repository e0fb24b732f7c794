import BuildFleet.Proofs.Wire.Spread
import BuildFleet.Wire.Message
/-!
# Messages read back (`CreateInstanceResponse`)

The fields of an instance and of a response bring their values back in whatever order they come
(`Instance.mergesAll_spread`, `Response.mergesAll_spread`), and one that was left out leaves the default,
which is its value. What is written here is one such order, so a message is read as it was written
(`messages_read_back`). What a newer server sends is another, with fields that are not known between; it is
read as if it had been sent alone, and means the same (`newer_responses_understood`). A status travels with
its sign carried up to 64 bits and is cut down to 32 where it arrives (`ofNat_statusNumber`).
-/
namespace BuildFleet.Wire

/-! ## Numbers -/

/-- Cutting a number down to 32 bits keeps what its low bits say. -/
theorem ofNat_toNat_toUInt64 (n : Int64) : Int32.ofNat n.toUInt64.toNat = n.toInt32 := by
  have htoInt : n.toInt = (n.toUInt64.toNat : Int).bmod (2 ^ 64) :=
    BitVec.toInt_eq_toNat_bmod n.toBitVec
  rw [← Int32.toInt_inj, Int32.toInt_ofNat', Int64.toInt_toInt32, htoInt]
  rw [Int.bmod_bmod_of_dvd (by decide)]

/-- A status survives the way through 64 bits, whatever its sign. -/
theorem ofNat_statusNumber (status : Int32) : Int32.ofNat (Response.statusNumber status) = status := by
  unfold Response.statusNumber
  rw [ofNat_toNat_toUInt64, Int32.toInt32_toInt64]

theorem eq_zero_of_statusNumber {status : Int32} (h : Response.statusNumber status = 0) :
    status = 0 := by
  rw [← ofNat_statusNumber status, h]
  rfl

theorem statusNumber_lt (status : Int32) : Response.statusNumber status < UInt64.size :=
  UInt64.toNat_lt_size _

theorem ofNat_toUInt64 (n : Int64) : Int64.ofNat n.toUInt64.toNat = n := by
  apply Int64.toBitVec.inj
  exact BitVec.ofNat_toNat 64 n.toBitVec

theorem eq_zero_of_toUInt64 {n : Int64} (h : n.toUInt64.toNat = 0) : n = 0 := by
  rw [← ofNat_toUInt64 n, h]
  rfl

/-! ## Requests -/

theorem Request.mergesAll_encode {r : Request} (h : r.encode.length < UInt64.size) :
    MergesAll merge r.encode blank r := by
  refine (writesText_textField 1 r.builderType).mergesAll (by decide) (by decide) h ?_ ?_
  · intro hempty
    show r = ⟨""⟩
    rw [← hempty]
  · intro hsize rest
    simp only [merge, if_pos, bind, Except.bind, readText_append hsize]
    rfl

/-! ## Instances -/

namespace Instance

variable {i : Instance}

/-- The bytes are the field of an instance with a tag, or nothing where the value is the default. -/
inductive Writes (i : Instance) : Nat → List UInt8 → Prop where
  | instanceId {field} (h : WritesText 1 i.instanceId field) : Writes i 1 field
  | builderType {field} (h : WritesText 2 i.builderType field) : Writes i 2 field

/-- What is known of an instance from the fields of some tags. -/
def part (i : Instance) (tags : List Nat) : Instance :=
  ⟨if 1 ∈ tags then i.instanceId else "", if 2 ∈ tags then i.builderType else ""⟩

theorem part_of_perm {tags : List Nat} (h : tags.Perm [1, 2]) : i.part tags = i := by
  have hid : 1 ∈ tags := h.symm.subset (by decide)
  have htype : 2 ∈ tags := h.symm.subset (by decide)
  simp only [part, if_pos hid, if_pos htype]

theorem Writes.mergesAll {tag : Nat} {field : List UInt8} (h : i.Writes tag field)
    (hsize : field.length < UInt64.size) (done : List Nat) :
    MergesAll merge field (i.part done) (i.part (done ++ [tag])) := by
  cases h with
  | instanceId h =>
    refine h.mergesAll (by decide) (by decide) hsize ?_ ?_
    · intro hempty
      simp [part, hempty]
    · intro hlength rest
      simp only [merge, if_pos, bind, Except.bind, readText_append hlength]
      simp [part, inField, pure, Except.pure]
  | builderType h =>
    refine h.mergesAll (by decide) (by decide) hsize ?_ ?_
    · intro hempty
      simp [part, hempty]
    · intro hlength rest
      have htag : ¬(2 = 1) := by decide
      simp only [merge, if_neg htag, if_pos, bind, Except.bind, readText_append hlength]
      simp [part, inField, pure, Except.pure]

/-- An instance is read however its fields are spread out. -/
theorem mergesAll_spread {fields : List (Nat × List UInt8)}
    (h : Spread (maxLevels - 1) [1, 2] i.Writes fields)
    (hsize : (bytesOf fields).length < UInt64.size) : MergesAll merge (bytesOf fields) blank i := by
  have hown : ∀ f ∈ fields, i.Writes f.1 f.2 → ∀ done, f.1 ∉ done →
      MergesAll merge f.2 (i.part done) (i.part (done ++ [f.1])) :=
    fun f hf hwrites done _ =>
      hwrites.mergesAll (Nat.lt_of_le_of_lt (length_le_bytesOf_of_mem hf) hsize) done
  refine h.mergesAll (by decide) hown ?_ fun _ => part_of_perm
  intro tag htag layout m bytes
  obtain ⟨hid, htype⟩ : tag ≠ 1 ∧ tag ≠ 2 := by simpa using htag
  simp only [merge, if_neg hid, if_neg htype]

theorem spread_encode (i : Instance) : Spread (maxLevels - 1) [1, 2] i.Writes
    [(1, textField 1 i.instanceId), (2, textField 2 i.builderType)] where
  once := .refl _
  written := by
    intro f hf _
    simp only [List.mem_cons, List.not_mem_nil, or_false] at hf
    obtain rfl | rfl := hf
    · exact .instanceId (writesText_textField 1 _)
    · exact .builderType (writesText_textField 2 _)
  other := by simp

theorem bytesOf_encode (i : Instance) :
    bytesOf [(1, textField 1 i.instanceId), (2, textField 2 i.builderType)] = i.encode := by
  simp [bytesOf, encode]

end Instance

/-! ## Responses -/

namespace Response

variable {r : Response}

/-- The bytes are the field of a response with a tag, or nothing where the value is the default. An
instance may be spread out in turn. -/
inductive Writes (r : Response) : Nat → List UInt8 → Prop where
  | status {field} (h : WritesNumber 1 (statusNumber r.status) field) : Writes r 1 field
  | waitersAhead {field} (h : WritesNumber 2 r.waitersAhead.toUInt64.toNat field) : Writes r 2 field
  | noInstance (h : r.instance? = none) : Writes r 3 []
  | someInstance {i fields} (h : r.instance? = some i)
    (hfields : Spread (maxLevels - 1) [1, 2] i.Writes fields) :
    Writes r 3 (delimitedField 3 (bytesOf fields))

/-- What is known of a response from the fields of some tags. -/
def part (r : Response) (tags : List Nat) : Response :=
  ⟨if 1 ∈ tags then r.status else 0, if 2 ∈ tags then r.waitersAhead else 0,
    if 3 ∈ tags then r.instance? else none⟩

theorem part_of_perm {tags : List Nat} (h : tags.Perm [1, 2, 3]) : r.part tags = r := by
  have hstatus : 1 ∈ tags := h.symm.subset (by decide)
  have hwaiters : 2 ∈ tags := h.symm.subset (by decide)
  have hinstance : 3 ∈ tags := h.symm.subset (by decide)
  simp only [part, if_pos hstatus, if_pos hwaiters, if_pos hinstance]

theorem Writes.mergesAll {tag : Nat} {field : List UInt8} (h : r.Writes tag field)
    (hsize : field.length < UInt64.size) {done : List Nat} (hnew : tag ∉ done) :
    MergesAll merge field (r.part done) (r.part (done ++ [tag])) := by
  cases h with
  | status h =>
    refine h.mergesAll (by decide) (by decide) ?_ ?_
    · intro hzero
      simp [part, eq_zero_of_statusNumber hzero]
    · intro rest
      simp only [merge, if_pos, bind, Except.bind, readNumber_append (statusNumber_lt r.status)]
      simp [part, inField, pure, Except.pure, ofNat_statusNumber]
  | waitersAhead h =>
    have hnumber : r.waitersAhead.toUInt64.toNat < UInt64.size := UInt64.toNat_lt_size _
    refine h.mergesAll (by decide) (by decide) ?_ ?_
    · intro hzero
      simp [part, eq_zero_of_toUInt64 hzero]
    · intro rest
      have htag : ¬(2 = 1) := by decide
      simp only [merge, if_neg htag, if_pos, bind, Except.bind, readNumber_append hnumber]
      rw [ofNat_toUInt64]
      simp [part, inField, pure, Except.pure]
  | noInstance h =>
    have hsame : r.part (done ++ [3]) = r.part done := by simp [part, h]
    rw [hsame]
    exact .nil
  | someInstance h hfields =>
    rename_i i fields
    have hlength : (bytesOf fields).length < UInt64.size :=
      Nat.lt_of_le_of_lt (length_le_delimitedField 3 _) hsize
    refine .of_merges (merges_delimitedField (by decide) (by decide) fun rest => ?_)
    have hmessage := (Instance.mergesAll_spread hfields hlength).mergeMessage hlength rest
    have hfirst : ¬(3 = 1) := by decide
    have hsecond : ¬(3 = 2) := by decide
    -- The tag is new, so there is no instance yet that this one would be merged into.
    have hblank : (r.part done).instance?.getD .blank = .blank := by
      simp only [part, if_neg hnew, Option.getD_none]
    simp only [merge, if_neg hfirst, if_neg hsecond, if_pos, bind, Except.bind, hblank, hmessage]
    simp [part, h, inField, pure, Except.pure]

theorem mergesAll_spread {fields : List (Nat × List UInt8)}
    (h : Spread maxLevels [1, 2, 3] r.Writes fields)
    (hsize : (bytesOf fields).length < UInt64.size) : MergesAll merge (bytesOf fields) blank r := by
  have hown : ∀ f ∈ fields, r.Writes f.1 f.2 → ∀ done, f.1 ∉ done →
      MergesAll merge f.2 (r.part done) (r.part (done ++ [f.1])) :=
    fun f hf hwrites done hnew =>
      hwrites.mergesAll (Nat.lt_of_le_of_lt (length_le_bytesOf_of_mem hf) hsize) hnew
  refine h.mergesAll (by decide) hown ?_ fun _ => part_of_perm
  intro tag htag layout m bytes
  obtain ⟨hstatus, hwaiters, hinstance⟩ : tag ≠ 1 ∧ tag ≠ 2 ∧ tag ≠ 3 := by simpa using htag
  simp only [merge, if_neg hstatus, if_neg hwaiters, if_neg hinstance]

theorem spread_encode (r : Response) : ∃ fields, Spread maxLevels [1, 2, 3] r.Writes fields ∧
    bytesOf fields = r.encode := by
  obtain ⟨last, hlast, henc⟩ : ∃ last, r.Writes 3 last ∧
      numberField 1 (statusNumber r.status) ++ (numberField 2 r.waitersAhead.toUInt64.toNat ++ last) =
        r.encode := by
    cases hi : r.instance? with
    | none => exact ⟨[], .noInstance hi, by simp [encode, hi]⟩
    | some i =>
      have hfield := Writes.someInstance hi i.spread_encode
      rw [i.bytesOf_encode] at hfield
      exact ⟨_, hfield, by simp [encode, hi]⟩
  refine ⟨[(1, numberField 1 (statusNumber r.status)),
    (2, numberField 2 r.waitersAhead.toUInt64.toNat), (3, last)], ⟨.refl _, ?_, by simp⟩, ?_⟩
  · intro f hf _
    simp only [List.mem_cons, List.not_mem_nil, or_false] at hf
    obtain rfl | rfl | rfl := hf
    · exact .status (writesNumber_numberField 1 _)
    · exact .waitersAhead (writesNumber_numberField 2 _)
    · exact hlast
  · simpa [bytesOf] using henc

/-- A response with any status but that of a completion is pending, with or without an instance. -/
theorem toUpdate_of_ne (h : r.status ≠ 2) :
    r.toUpdate = .ok (.pending r.waitersAhead) := by
  unfold toUpdate Status.ofNumber
  by_cases hwaiting : r.status = 1
  · rw [if_pos hwaiting]
  · rw [if_neg hwaiting, if_neg h]

theorem toUpdate_of_eq (h : r.status = 2) :
    r.toUpdate = match r.instance? with
      | none => .error .noInstance
      | some i =>
        match InstanceId.ofText i.instanceId with
        | .error refusal => .error (.refused refusal)
        | .ok id => .ok (.complete id) := by
  unfold toUpdate Status.ofNumber
  rw [h]
  rfl

end Response

/-- **Messages are read as they were written** (`CreateInstanceRequest`, `CreateInstanceResponse`).
Whatever a request asks for and whatever a response says, with a status of any number, negative or
unknown, any place in the queue and any instance, one with empty fields among them: decoding what
was written gives the same message. The bytes of a message are as many as fit into memory, so a
number of 64 bits counts them. -/
theorem messages_read_back :
    (∀ r : Request, r.encode.length < UInt64.size → Request.decode r.encode = .ok r) ∧
    ∀ r : Response, r.encode.length < UInt64.size → Response.decode r.encode = .ok r := by
  constructor
  · intro r h
    exact decode_eq_ok (Request.mergesAll_encode h)
  · intro r h
    obtain ⟨fields, hspread, hbytes⟩ := r.spread_encode
    rw [← hbytes] at h ⊢
    exact decode_eq_ok (Response.mergesAll_spread hspread h)

/-- A status that no server sends today, a negative place in the queue and an instance without a
builder type. -/
def oddResponse : Response := ⟨-7, -1, some ⟨"übung", ""⟩⟩

theorem oddResponse_reads_back :
    (oddResponse.encode.length < UInt64.size ∧
      Response.decode oddResponse.encode = .ok oddResponse) ∧
    (Request.encode ⟨"linux-amd64"⟩).length < UInt64.size ∧
      Request.decode (Request.encode ⟨"linux-amd64"⟩) = .ok ⟨"linux-amd64"⟩ := by
  have hresponse : oddResponse.encode.length < UInt64.size := by decide +kernel
  have hrequest : (Request.encode ⟨"linux-amd64"⟩).length < UInt64.size := by decide +kernel
  exact ⟨⟨hresponse, messages_read_back.2 _ hresponse⟩, hrequest, messages_read_back.1 _ hrequest⟩

/-- **Responses of newer servers are understood the same** (`CreateInstanceResponse`). However the
fields of a response are spread out, in any order, with any number of well-formed fields of other
tags before, between and behind them, and in the same way inside its instance: the response is read
as it was meant, and so is the update that it stands for, or what is wrong with it. The response as
it is written here is spread out like that. The bytes are as many as fit into memory, so a number of
64 bits counts them. -/
theorem newer_responses_understood (r : Response) :
    (∃ fields, Spread maxLevels [1, 2, 3] r.Writes fields ∧ bytesOf fields = r.encode) ∧
    ∀ fields, Spread maxLevels [1, 2, 3] r.Writes fields → (bytesOf fields).length < UInt64.size →
      Response.decode (bytesOf fields) = .ok r ∧
      (Response.decode (bytesOf fields)).map Response.toUpdate = .ok r.toUpdate := by
  refine ⟨r.spread_encode, ?_⟩
  intro fields hspread hsize
  have hdecoded : Response.decode (bytesOf fields) = .ok r :=
    decode_eq_ok (Response.mergesAll_spread hspread hsize)
  refine ⟨hdecoded, ?_⟩
  rw [hdecoded]
  rfl

/-- A completion, with an instance of a builder type. -/
def completion : Response := ⟨2, 0, some ⟨"user-0", "linux"⟩⟩

/-- Its instance, sent with the builder type first and four bytes that are not known. -/
def newerInstance : List (Nat × List UInt8) :=
  [(2, delimitedField 2 (Utf8.encode "linux")), (7, [0x3D, 1, 2, 3, 4]),
    (1, delimitedField 1 (Utf8.encode "user-0"))]

/-- The completion, sent with its instance first, a zero in two bytes and a group in a group. -/
def newerCompletion : List (Nat × List UInt8) :=
  [(3, delimitedField 3 (bytesOf newerInstance)), (5, [0x28, 0x80, 0x00]), (1, key 1 .varint ++ varint 2),
    (9, [0x4B, 0x5B, 0x5C, 0x4C]), (2, [])]

theorem isKey_singleton {tag : Nat} {layout : WireType} {b : UInt8} (hb : b < 128)
    (hkey : b.toNat = tag * 8 + layout.number) (htag : tag ≠ 0) : IsKey tag layout [b] where
  isNumber := ⟨[], b, rfl, nofun, hb, Nat.zero_le _, nofun⟩
  spelled_eq := by
    have hsmall : b.toNat < 128 := UInt8.lt_iff_toNat_lt.1 hb
    show b.toNat % 128 + 128 * 0 = _
    omega
  tag_ne_zero := htag
  tag_small := by
    have hsmall : b.toNat < 128 := UInt8.lt_iff_toNat_lt.1 hb
    simp only [UInt32.size]
    omega

theorem spread_newerInstance :
    Spread (maxLevels - 1) [1, 2] (Instance.Writes ⟨"user-0", "linux"⟩) newerInstance where
  once := by decide
  written := by
    intro f hf htag
    simp only [newerInstance, List.mem_cons, List.not_mem_nil, or_false] at hf
    obtain rfl | rfl | rfl := hf
    · exact .builderType (.inl rfl)
    · exact absurd htag (by simp)
    · exact .instanceId (.inl rfl)
  other := by
    intro f hf htag
    simp only [newerInstance, List.mem_cons, List.not_mem_nil, or_false] at hf
    obtain rfl | rfl | rfl := hf
    · exact absurd (by simp) htag
    · exact .thirtyTwoBit (isKey_singleton (b := 0x3D) (by decide) rfl (by decide)) rfl
    · exact absurd (by simp) htag

theorem spread_newerCompletion :
    Spread maxLevels [1, 2, 3] (Response.Writes completion) newerCompletion where
  once := by decide
  written := by
    intro f hf htag
    simp only [newerCompletion, List.mem_cons, List.not_mem_nil, or_false] at hf
    obtain rfl | rfl | rfl | rfl | rfl := hf
    · exact .someInstance rfl spread_newerInstance
    · exact absurd htag (by simp)
    · exact .status (.inl rfl)
    · exact absurd htag (by simp)
    · exact .waitersAhead (.inr ⟨rfl, rfl⟩)
  other := by
    intro f hf htag
    simp only [newerCompletion, List.mem_cons, List.not_mem_nil, or_false] at hf
    obtain rfl | rfl | rfl | rfl | rfl := hf
    · exact absurd (by simp) htag
    · exact .varint (isKey_singleton (b := 0x28) (by decide) rfl (by decide))
        ⟨[0x80], 0x00, rfl, by simp, by decide, by decide, nofun⟩
    · exact absurd (by simp) htag
    · have hinner : IsField 99 11 ([0x5B] ++ (bytesOf [] ++ [0x5C])) :=
        .group (isKey_singleton (by decide) rfl (by decide)) nofun
          (isKey_singleton (by decide) rfl (by decide))
      have houter : IsField 100 9 ([0x4B] ++ (bytesOf [(11, [0x5B, 0x5C])] ++ [0x4C])) :=
        .group (isKey_singleton (by decide) rfl (by decide)) (List.forall_mem_singleton.2 hinner)
          (isKey_singleton (by decide) rfl (by decide))
      exact houter
    · exact absurd (by simp) htag

theorem newerCompletion_understood :
    Spread maxLevels [1, 2, 3] (Response.Writes completion) newerCompletion ∧
    (bytesOf newerCompletion).length < UInt64.size ∧
    Response.decode (bytesOf newerCompletion) = .ok completion ∧
    (Response.decode (bytesOf newerCompletion)).map Response.toUpdate = .ok completion.toUpdate := by
  have hsize : (bytesOf newerCompletion).length < UInt64.size := by decide +kernel
  exact ⟨spread_newerCompletion, hsize,
    (newer_responses_understood completion).2 _ spread_newerCompletion hsize⟩

end BuildFleet.Wire
