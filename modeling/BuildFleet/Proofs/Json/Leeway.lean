import BuildFleet.Proofs.Json.Members
import Mathlib.Data.List.Perm.Basic
/-!
# What does not matter about the members of an object

`Leeway` says what may change about an object without a change to what is read from it: which keys are
known, which values are as good as none, and what may change within a value. A record whose members keep
out of each other's way (`Record.IsLenient`) is read as before when members that it does not know are put
in, its members are put into another order, or one with its default is left out (`keeps_edited`).
-/
namespace BuildFleet.Json

/-! ## Changes to an object -/

/-- What may change about the members of an object. -/
structure Leeway where
  /-- The keys whose members are read. -/
  known : List String
  /-- The value is what a missing member stands for. -/
  IsDefault : String → List UInt8 → Prop
  /-- The value may become another one. -/
  Within : String → List UInt8 → List UInt8 → Prop

/-- One change to the members of an object. -/
inductive Leeway.Changes (l : Leeway) : List Pair → List Pair → Prop where
  | insert {before new after} (h : ∀ p ∈ new, ∃ key, p.HasKey key ∧ key ∉ l.known) :
    Changes l (before ++ after) (before ++ (new ++ after))
  | permute {ps ps'} (h : ps.Perm ps') : Changes l ps ps'
  | remove {before p after key} (hkey : p.HasKey key) (h : l.IsDefault key p.value) :
    Changes l (before ++ p :: after) (before ++ after)
  | within {before p after key v} (hkey : p.HasKey key) (h : l.Within key p.value v) :
    Changes l (before ++ p :: after) (before ++ ⟨p.literal, v⟩ :: after)

/-- The bytes are an object, and the others are the object after a change to its members; the white space
between them does not matter. -/
def Leeway.Edited (l : Leeway) (v v' : List UInt8) : Prop :=
  ∃ ps ps', IsObject ps v ∧ IsObject ps' v' ∧ l.Changes ps ps'

/-- The bytes are an object, and the others are the object after a change to one of its values. -/
def EntryEdited (E : List UInt8 → List UInt8 → Prop) (v v' : List UInt8) : Prop :=
  ∃ before p w after, IsObject (before ++ p :: after) v ∧
    IsObject (before ++ ⟨p.literal, w⟩ :: after) v' ∧ E p.value w

/-- What is read from a value is still read after a change to it. -/
def Keeps {α : Type} (item : Reader α) (E : List UInt8 → List UInt8 → Prop) : Prop :=
  ∀ v v' x, IsValue v → E v v' → Reads item v x → Reads item v' x

/-! ## Tables -/

section
variable {α : Type} {item : Reader α} {E : List UInt8 → List UInt8 → Prop}

theorem entriesOf_within {p : Pair} {w : List UInt8} (h : ∀ x, Reads item p.value x → Reads item w x)
    {before after : List Pair} {es : List (String × α)}
    (hes : EntriesOf item (before ++ p :: after) es) :
    EntriesOf item (before ++ ⟨p.literal, w⟩ :: after) es := by
  induction before generalizing es with
  | nil =>
    cases hes with
    | cons he hes => exact .cons ⟨he.1, h _ he.2⟩ hes
  | cons q before ih =>
    cases hes with
    | cons he hes => exact .cons he (ih hes)

/-- A table is read as before when a value in it changes and is read as before. -/
theorem keeps_table (hitem : Exact item) (h : Keeps item E) : Keeps (table item) (EntryEdited E) := by
  rintro v v' t - ⟨before, p, w, after, hv, hv', hedited⟩ ht
  obtain ⟨es, hes, rfl⟩ := (reads_table_iff hitem hv).1 ht
  have hvalue : IsValue p.value := hv.values p (by simp)
  exact (reads_table_iff hitem hv').2
    ⟨es, entriesOf_within (fun x hx => h p.value w x hvalue hedited hx) hes, rfl⟩

end

/-! ## Members of a record -/

section
variable {σ α β γ : Type} {m m' : Member σ} {item : Reader β} {item' : Reader γ}

/-- A value is read as the given change of the state. -/
def Member.Sets (m : Member σ) (set : σ → σ) : Prop := ∃ v, Reads m.read v set

/-- Setting one member does not affect another. -/
structure Member.Apart (m m' : Member σ) : Prop where
  isSet : ∀ set, m.Sets set → ∀ s, m'.isSet (set s) = m'.isSet s
  comm : ∀ set set', m.Sets set → m'.Sets set' → ∀ s, set (set' s) = set' (set s)

theorem read_ofField (item : Reader β) (key : String) (isRequired : Bool) (get : σ → Option β)
    (set : β → σ → σ) (text : List UInt8) : (Member.ofField key isRequired item get set).read text =
      (item text).map fun z => (set z.1, z.2) := by
  simp only [Member.ofField]
  cases item text <;> rfl

theorem sets_ofField {key : String} {isRequired : Bool} {get : σ → Option β} {set : β → σ → σ}
    {f : σ → σ} (h : (Member.ofField key isRequired item get set).Sets f) : ∃ x, f = set x := by
  obtain ⟨v, hv⟩ := h
  have hread := hv [] delimited_nil
  rw [read_ofField] at hread
  cases hz : item (v ++ []) with
  | error fault =>
    rw [hz] at hread
    cases hread
  | ok z =>
    rw [hz] at hread
    exact ⟨z.1, (Prod.mk.inj (Except.ok.inj hread)).1.symm⟩

theorem reads_ofField_iff (hitem : Exact item) {key : String} {isRequired : Bool}
    {get : σ → Option β} {set : β → σ → σ} {v : List UInt8} (hv : IsValue v) {f : σ → σ} :
    Reads (Member.ofField key isRequired item get set).read v f ↔
      ∃ x, Reads item v x ∧ f = set x := by
  constructor
  · intro h
    have hf := h [] delimited_nil
    rw [read_ofField] at hf
    cases hz : item (v ++ []) with
    | error fault =>
      rw [hz] at hf
      cases hf
    | ok z =>
      obtain ⟨x, rfl, hx⟩ := hitem.reads v hv [] delimited_nil z hz
      rw [hz] at hf
      cases hf
      exact ⟨x, hx, rfl⟩
  · rintro ⟨x, hx, rfl⟩ rest hrest
    rw [read_ofField, hx rest hrest]
    rfl

theorem exact_ofField (hitem : Exact item) (key : String) (isRequired : Bool) (get : σ → Option β)
    (set : β → σ → σ) : Exact (Member.ofField key isRequired item get set).read where
  skip pad text h := by rw [read_ofField, read_ofField, hitem.skip pad text h]
  reads v hv rest hrest y hy := by
    rw [read_ofField] at hy
    cases hz : item (v ++ rest) with
    | error fault =>
      rw [hz] at hy
      cases hy
    | ok z =>
      obtain ⟨x, rfl, hx⟩ := hitem.reads v hv rest hrest z hz
      rw [hz] at hy
      cases hy
      exact ⟨set x, rfl, (reads_ofField_iff hitem hv).2 ⟨x, hx, rfl⟩⟩

theorem apart_ofField {key key' : String} {isRequired isRequired' : Bool} {get : σ → Option β}
    {set : β → σ → σ} {get' : σ → Option γ} {set' : γ → σ → σ}
    (hget : ∀ x s, get' (set x s) = get' s) (hcomm : ∀ x y s, set x (set' y s) = set' y (set x s)) :
    (Member.ofField key isRequired item get set).Apart
      (Member.ofField key' isRequired' item' get' set') where
  isSet f hf s := by
    obtain ⟨x, rfl⟩ := sets_ofField hf
    exact congrArg Option.isSome (hget x s)
  comm f f' hf hf' s := by
    obtain ⟨x, rfl⟩ := sets_ofField hf
    obtain ⟨y, rfl⟩ := sets_ofField hf'
    exact hcomm x y s

/-- Setting a field to what it stands for when it is missing makes no difference. -/
theorem build_of_default {build : σ → α} {key : String} {isRequired : Bool} {get : σ → Option β}
    {set : β → σ → σ} {v : List UInt8} {f : σ → σ} {x : β} (hitem : Exact item) (hv : IsValue v)
    (hdecode : decode item v = .ok x)
    (hread : Reads (Member.ofField key isRequired item get set).read v f)
    (hbuild : ∀ s, get s = none → build (set x s) = build s) {s : σ}
    (hset : (Member.ofField key isRequired item get set).isSet s = false) :
    build (f s) = build s := by
  obtain ⟨y, hy, rfl⟩ := (reads_ofField_iff hitem hv).1 hread
  have hx : Reads item v x := (hitem.decode_iff hv isPad_nil isPad_nil).1 (by simpa using hdecode)
  obtain rfl := hx.unique hy
  exact hbuild s (Option.isNone_iff_eq_none.1 (by simpa [Member.ofField] using hset))

theorem keeps_ofField {E : List UInt8 → List UInt8 → Prop} (hitem : Exact item) (h : Keeps item E)
    (key : String) (isRequired : Bool) (get : σ → Option β) (set : β → σ → σ) :
    Keeps (Member.ofField key isRequired item get set).read E := by
  intro v v' f hv hedited hf rest hrest
  obtain ⟨x, hx, rfl⟩ := (reads_ofField_iff hitem hv).1 hf
  rw [read_ofField, h v v' x hv hedited hx rest hrest]
  rfl

end

/-! ## Records -/

namespace Record

variable {σ α : Type} {r : Record σ α} {s s' t : σ} {ps ps' before after new : List Pair} {p : Pair}
  {key : String}

/-- The members of the record need not be there, can be read exactly, and keep out of each other's way. -/
structure IsLenient (r : Record σ α) : Prop where
  optional : ∀ m ∈ r.members, m.isRequired = false
  exact : ∀ m ∈ r.members, Exact m.read
  once : ∀ m ∈ r.members, ∀ set, m.Sets set → ∀ s, m.isSet (set s) = true
  apart : ∀ m ∈ r.members, ∀ m' ∈ r.members, m.key ≠ m'.key → m.Apart m'

theorem IsLenient.missing_eq (hr : r.IsLenient) (s : σ) : r.missing s = none := by
  rw [missing, List.find?_eq_none]
  intro m hm
  simp [hr.optional m hm]

theorem mem_and_key_of_find? {m : Member σ} (h : r.members.find? (·.key == key) = some m) :
    m ∈ r.members ∧ m.key = key :=
  ⟨List.mem_of_find?_eq_some h, by simpa using List.find?_some h⟩

theorem fills_append : Fills r s (before ++ after) s' ↔ ∃ t, Fills r s before t ∧ Fills r t after s' := by
  constructor
  · intro h
    induction before generalizing s with
    | nil => exact ⟨s, .done s, h⟩
    | cons p before ih =>
      cases h with
      | unknown hkey hm h =>
        obtain ⟨t, hbefore, hafter⟩ := ih h
        exact ⟨t, .unknown hkey hm hbefore, hafter⟩
      | known hkey hm hset hread h =>
        obtain ⟨t, hbefore, hafter⟩ := ih h
        exact ⟨t, .known hkey hm hset hread hbefore, hafter⟩
  · rintro ⟨t, hbefore, hafter⟩
    induction hbefore with
    | done s => exact hafter
    | unknown hkey hm _ ih => exact .unknown hkey hm (ih hafter)
    | known hkey hm hset hread _ ih => exact .known hkey hm hset hread (ih hafter)

/-- Members that are not known leave the record as it is. -/
theorem fills_unknown (h : ∀ p ∈ new, ∃ key, p.Names key ∧ r.members.find? (·.key == key) = none)
    (s : σ) : Fills r s new s := by
  induction new with
  | nil => exact .done s
  | cons p new ih =>
    obtain ⟨⟨key, hkey, hm⟩, hnew⟩ := List.forall_mem_cons.1 h
    exact .unknown hkey hm (ih hnew)

theorem fills_insert (h : Fills r s (before ++ after) s')
    (hnew : ∀ p ∈ new, ∃ key, p.Names key ∧ r.members.find? (·.key == key) = none) :
    Fills r s (before ++ (new ++ after)) s' := by
  obtain ⟨t, hbefore, hafter⟩ := fills_append.1 h
  exact fills_append.2 ⟨t, hbefore, fills_append.2 ⟨t, fills_unknown hnew t, hafter⟩⟩

theorem fills_swap (hr : r.IsLenient) {q : Pair} (h : Fills r s (p :: q :: ps) s') :
    Fills r s (q :: p :: ps) s' := by
  cases h with
  | unknown hkey hm h =>
    cases h with
    | unknown hkey' hm' h => exact .unknown hkey' hm' (.unknown hkey hm h)
    | known hkey' hm' hset' hread' h => exact .known hkey' hm' hset' hread' (.unknown hkey hm h)
  | @known _ _ _ _ key m set hkey hm hset hread h =>
    cases h with
    | unknown hkey' hm' h => exact .unknown hkey' hm' (.known hkey hm hset hread h)
    | @known _ _ _ _ key' m' set' hkey' hm' hset' hread' h =>
      obtain ⟨hmem, hmkey⟩ := mem_and_key_of_find? hm
      obtain ⟨hmem', hmkey'⟩ := mem_and_key_of_find? hm'
      have hne : m.key ≠ m'.key := by
        -- a member is read once, so the other one cannot be of the same key
        intro heq
        obtain rfl : key = key' := hmkey.symm.trans (heq.trans hmkey')
        obtain rfl : m = m' := Option.some.inj (hm.symm.trans hm')
        rw [hr.once m hmem set ⟨_, hread⟩] at hset'
        cases hset'
      have hapart := hr.apart m hmem m' hmem' hne
      have hapart' := hr.apart m' hmem' m hmem hne.symm
      rw [hapart.isSet set ⟨_, hread⟩] at hset'
      rw [← hapart.comm set set' ⟨_, hread⟩ ⟨_, hread'⟩] at h
      refine .known hkey' hm' hset' hread' (.known hkey hm ?_ hread h)
      rw [hapart'.isSet set' ⟨_, hread'⟩, hset]

/-- In which order the members come does not matter. -/
theorem fills_perm (hr : r.IsLenient) (hperm : ps.Perm ps') (h : Fills r s ps s') :
    Fills r s ps' s' := by
  induction hperm generalizing s s' with
  | nil => exact h
  | cons p _ ih =>
    cases h with
    | unknown hkey hm h => exact .unknown hkey hm (ih h)
    | known hkey hm hset hread h => exact .known hkey hm hset hread (ih h)
  | swap p q ps => exact fills_swap hr h
  | trans _ _ ih ih' => exact ih' (ih h)

/-- A member whose value is the default may as well be missing. -/
theorem fills_remove (hr : r.IsLenient) (hkey : p.Names key)
    (hdefault : ∀ m set, r.members.find? (·.key == key) = some m → Reads m.read p.value set →
      ∀ s, m.isSet s = false → r.build (set s) = r.build s)
    (h : Fills r s (before ++ p :: after) s') :
    ∃ t, Fills r s (before ++ after) t ∧ r.build t = r.build s' := by
  have hlast : (before ++ p :: after).Perm ((before ++ after) ++ [p]) := by
    rw [List.append_assoc]
    exact List.Perm.append_left before (List.perm_append_singleton p after).symm
  obtain ⟨t, hothers, hp⟩ := fills_append.1 (fills_perm hr hlast h)
  refine ⟨t, hothers, ?_⟩
  cases hp with
  | unknown _ _ hdone => cases hdone; rfl
  | known hkey' hm hset hread hdone =>
    cases hdone
    obtain rfl := hkey.unique hkey'
    exact (hdefault _ _ hm hread t hset).symm

theorem fills_within {v : List UInt8} (hkey : p.Names key)
    (hv : ∀ m set, r.members.find? (·.key == key) = some m → Reads m.read p.value set →
      Reads m.read v set)
    (h : Fills r s (before ++ p :: after) s') :
    Fills r s (before ++ ⟨p.literal, v⟩ :: after) s' := by
  obtain ⟨t, hbefore, hp⟩ := fills_append.1 h
  refine fills_append.2 ⟨t, hbefore, ?_⟩
  cases hp with
  | unknown hkey' hm hafter => exact .unknown hkey' hm hafter
  | known hkey' hm hset hread hafter =>
    obtain rfl := hkey.unique hkey'
    exact .known hkey' hm hset (hv _ _ hm hread) hafter

/-- A record with leeway is read as before a change to its members. -/
theorem keeps_edited (hr : r.IsLenient) {l : Leeway}
    (hknown : ∀ m ∈ r.members, m.key ∈ l.known)
    (hdefault : ∀ m ∈ r.members, ∀ v set, IsValue v → l.IsDefault m.key v → Reads m.read v set →
      ∀ s, m.isSet s = false → r.build (set s) = r.build s)
    (hwithin : ∀ m ∈ r.members, Keeps m.read (l.Within m.key)) : Keeps r.read l.Edited := by
  rintro v v' x - ⟨ps, ps', hps, hps', hchange⟩ hx
  obtain ⟨s, hfills, -, rfl⟩ := (reads_iff hr.exact hps).1 hx
  suffices ∃ t, Fills r r.blank ps' t ∧ r.build t = r.build s by
    obtain ⟨t, ht, hbuild⟩ := this
    exact (reads_iff hr.exact hps').2 ⟨t, ht, hr.missing_eq t, hbuild⟩
  cases hchange with
  | insert hnew =>
    refine ⟨s, fills_insert hfills fun p hp => ?_, rfl⟩
    obtain ⟨key, hkey, hunknown⟩ := hnew p hp
    refine ⟨key, hkey.names, List.find?_eq_none.2 fun m hm heq => hunknown ?_⟩
    obtain rfl : m.key = key := by simpa using heq
    exact hknown m hm
  | permute hperm => exact ⟨s, fills_perm hr hperm hfills, rfl⟩
  | @remove before p after key hkey hvalue =>
    refine fills_remove hr hkey.names (fun m set hm hread => ?_) hfills
    obtain ⟨hmem, rfl⟩ := mem_and_key_of_find? hm
    exact hdefault m hmem p.value set (hps.values p (by simp)) hvalue hread
  | @within before p after key w hkey hw =>
    refine ⟨s, fills_within hkey.names (fun m set hm hread => ?_) hfills, rfl⟩
    obtain ⟨hmem, rfl⟩ := mem_and_key_of_find? hm
    exact hwithin m hmem p.value w set (hps.values p (by simp)) hw hread

end Record

end BuildFleet.Json
