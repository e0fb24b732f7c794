import BuildFleet.Catalog
import BuildFleet.Proofs.Json.Leeway
import Mathlib.Logic.Relation
/-!
# What a catalog is read from (`parse_catalog`)

The catalog, its builders and its hosts are records with members that need not be there. What may change
about the text of a catalog is said for each kind of object: which keys it knows, and which values stand
for nothing (`Document.leeway`). However often a text changes in these ways, the same catalog is read from
it (`edits_do_not_matter`).
-/
namespace BuildFleet.Catalog

open Json (Exact Keeps Member Reads)

/-! ## What may change -/

/-- A builder tells its kind of host; without one it is empty. -/
def BuilderInfo.leeway : Json.Leeway where
  known := ["HostType"]
  IsDefault key v := key = "HostType" ∧ Json.decode Json.text v = .ok ""
  Within _ _ _ := False

/-- A host tells whether it is registered, how many machines are expected, and its images. -/
def HostInfo.leeway : Json.Leeway where
  known := ["IsReverse", "ExpectNum", "ContainerImage", "VMImage"]
  IsDefault key v :=
    (key = "IsReverse" ∧ Json.decode Json.boolean v = .ok false) ∨
    (key = "ExpectNum" ∧ Json.decode Json.signed64 v = .ok 0) ∨
    (key = "ContainerImage" ∨ key = "VMImage") ∧ Json.decode Json.text v = .ok ""
  Within _ _ _ := False

/-- A catalog has tables of builders and of hosts, in which each of them may change. -/
def Document.leeway : Json.Leeway where
  known := ["Builders", "Hosts"]
  IsDefault key v :=
    (key = "Builders" ∧ Json.decode (Json.table BuilderInfo.record.read) v = .ok .empty) ∨
    (key = "Hosts" ∧ Json.decode (Json.table HostInfo.record.read) v = .ok .empty)
  Within key v v' :=
    (key = "Builders" ∧ Json.EntryEdited BuilderInfo.leeway.Edited v v') ∨
    (key = "Hosts" ∧ Json.EntryEdited HostInfo.leeway.Edited v v')

/-- The texts are catalogs, with any white space around them, that differ in a change to one object. -/
def Edited (text text' : List UInt8) : Prop :=
  ∃ pad v after pad' v' after', Json.IsPad pad ∧ Json.IsPad after ∧ Json.IsPad pad' ∧ Json.IsPad after' ∧
    text = pad ++ (v ++ after) ∧ text' = pad' ++ (v' ++ after') ∧ Document.leeway.Edited v v'

/-! ## The records -/

namespace BuilderInfo

theorem isLenient_record : record.IsLenient where
  optional := List.forall_mem_singleton.2 rfl
  exact := List.forall_mem_singleton.2 (Json.exact_ofField Json.exact_text ..)
  once := List.forall_mem_singleton.2 fun set hset s => by
    obtain ⟨x, rfl⟩ := Json.sets_ofField hset
    rfl
  apart := List.forall_mem_singleton.2 (List.forall_mem_singleton.2 fun hne => absurd rfl hne)

theorem keeps_record : Json.Keeps record.read leeway.Edited := by
  refine Json.Record.keeps_edited isLenient_record ?_ ?_ ?_
  · exact List.forall_mem_singleton.2 (by decide)
  · refine List.forall_mem_singleton.2 fun v set hv hdefault hread s hset => ?_
    refine Json.build_of_default Json.exact_text hv hdefault.2 hread ?_ hset
    rintro _ rfl
    rfl
  · exact List.forall_mem_singleton.2 fun _ _ _ _ hwithin => hwithin.elim

end BuilderInfo

namespace HostInfo

theorem isLenient_record : record.IsLenient where
  optional m hm := by
    simp only [record, List.mem_cons, List.not_mem_nil, or_false] at hm
    rcases hm with rfl | rfl | rfl | rfl <;> rfl
  exact m hm := by
    simp only [record, List.mem_cons, List.not_mem_nil, or_false] at hm
    rcases hm with rfl | rfl | rfl | rfl
    · exact Json.exact_ofField Json.exact_boolean ..
    · exact Json.exact_ofField Json.exact_signed64 ..
    · exact Json.exact_ofField Json.exact_text ..
    · exact Json.exact_ofField Json.exact_text ..
  once m hm set hset s := by
    simp only [record, List.mem_cons, List.not_mem_nil, or_false] at hm
    rcases hm with rfl | rfl | rfl | rfl <;> obtain ⟨x, rfl⟩ := Json.sets_ofField hset <;> rfl
  apart m hm m' hm' hne := by
    simp only [record, List.mem_cons, List.not_mem_nil, or_false] at hm hm'
    rcases hm with rfl | rfl | rfl | rfl <;> rcases hm' with rfl | rfl | rfl | rfl <;>
      first
        | exact absurd rfl hne
        | exact Json.apart_ofField (fun _ _ => rfl) (fun _ _ _ => rfl)

theorem keeps_record : Json.Keeps record.read leeway.Edited := by
  refine Json.Record.keeps_edited isLenient_record ?_ ?_ ?_
  · intro m hm
    simp only [record, List.mem_cons, List.not_mem_nil, or_false] at hm
    rcases hm with rfl | rfl | rfl | rfl <;> decide
  · intro m hm v set hv hdefault hread s hset
    simp only [record, List.mem_cons, List.not_mem_nil, or_false] at hm
    rcases hm with rfl | rfl | rfl | rfl
    · have hdecode : Json.decode Json.boolean v = .ok false := by
        simpa [leeway, Member.ofField] using hdefault
      refine Json.build_of_default Json.exact_boolean hv hdecode hread (fun s hnone => ?_) hset
      simp [record, hnone]
    · have hdecode : Json.decode Json.signed64 v = .ok 0 := by
        simpa [leeway, Member.ofField] using hdefault
      refine Json.build_of_default Json.exact_signed64 hv hdecode hread (fun s hnone => ?_) hset
      simp [record, hnone]
    · have hdecode : Json.decode Json.text v = .ok "" := by
        simpa [leeway, Member.ofField] using hdefault
      refine Json.build_of_default Json.exact_text hv hdecode hread (fun s hnone => ?_) hset
      simp [record, hnone]
    · have hdecode : Json.decode Json.text v = .ok "" := by
        simpa [leeway, Member.ofField] using hdefault
      refine Json.build_of_default Json.exact_text hv hdecode hread (fun s hnone => ?_) hset
      simp [record, hnone]
  · exact fun _ _ _ _ _ _ hwithin => hwithin.elim

end HostInfo

namespace Document

theorem exact_builders : Exact (Json.table BuilderInfo.record.read) :=
  Json.exact_table (Json.Record.exact_read BuilderInfo.isLenient_record.exact)

theorem exact_hosts : Exact (Json.table HostInfo.record.read) :=
  Json.exact_table (Json.Record.exact_read HostInfo.isLenient_record.exact)

theorem isLenient_record : record.IsLenient where
  optional m hm := by
    rcases List.mem_pair.1 hm with rfl | rfl <;> rfl
  exact m hm := by
    rcases List.mem_pair.1 hm with rfl | rfl
    · exact Json.exact_ofField exact_builders ..
    · exact Json.exact_ofField exact_hosts ..
  once m hm set hset s := by
    rcases List.mem_pair.1 hm with rfl | rfl <;> obtain ⟨x, rfl⟩ := Json.sets_ofField hset <;> rfl
  apart m hm m' hm' hne := by
    rcases List.mem_pair.1 hm with rfl | rfl <;> rcases List.mem_pair.1 hm' with rfl | rfl <;>
      first
        | exact absurd rfl hne
        | exact Json.apart_ofField (fun _ _ => rfl) (fun _ _ _ => rfl)

/-- A catalog is read as before a change to one of its objects. -/
theorem keeps_record : Keeps record.read leeway.Edited := by
  refine Json.Record.keeps_edited isLenient_record ?_ ?_ ?_
  · intro m hm
    rcases List.mem_pair.1 hm with rfl | rfl <;> decide
  · intro m hm v set hv hdefault hread s hset
    rcases List.mem_pair.1 hm with rfl | rfl
    · have hdecode : Json.decode (Json.table BuilderInfo.record.read) v = .ok .empty := by
        simpa [leeway, Member.ofField] using hdefault
      refine Json.build_of_default exact_builders hv hdecode hread (fun s hnone => ?_) hset
      simp [record, hnone]
    · have hdecode : Json.decode (Json.table HostInfo.record.read) v = .ok .empty := by
        simpa [leeway, Member.ofField] using hdefault
      refine Json.build_of_default exact_hosts hv hdecode hread (fun s hnone => ?_) hset
      simp [record, hnone]
  · intro m hm
    have hbuilder := Json.Record.exact_read BuilderInfo.isLenient_record.exact
    have hhost := Json.Record.exact_read HostInfo.isLenient_record.exact
    rcases List.mem_pair.1 hm with rfl | rfl
    · refine Json.keeps_ofField exact_builders (fun v v' t hv hwithin => ?_) _ _ _ _
      have hentry : Json.EntryEdited BuilderInfo.leeway.Edited v v' := by
        simpa [leeway, Member.ofField] using hwithin
      exact Json.keeps_table hbuilder BuilderInfo.keeps_record v v' t hv hentry
    · refine Json.keeps_ofField exact_hosts (fun v v' t hv hwithin => ?_) _ _ _ _
      have hentry : Json.EntryEdited HostInfo.leeway.Edited v v' := by
        simpa [leeway, Member.ofField] using hwithin
      exact Json.keeps_table hhost HostInfo.keeps_record v v' t hv hentry

end Document

/-! ## Texts -/

variable {text text' : List UInt8} {d : Document}

theorem ofBytes_eq_ok_iff : ofBytes text = .ok d ↔ Json.decode Document.record.read text = .ok d := by
  unfold ofBytes
  cases Json.decode Document.record.read text with
  | error fault => simp
  | ok document => simp

theorem ofBytes_of_edited (h : ofBytes text = .ok d) (hedited : Edited text text') :
    ofBytes text' = .ok d := by
  obtain ⟨pad, v, after, pad', v', after', hpad, hafter, hpad', hafter', rfl, rfl, hchange⟩ := hedited
  obtain ⟨ps, ps', hps, hps', -⟩ := id hchange
  have hexact := Json.Record.exact_read Document.isLenient_record.exact
  rw [ofBytes_eq_ok_iff] at h ⊢
  rw [hexact.decode_iff hps.isValue hpad hafter] at h
  rw [hexact.decode_iff hps'.isValue hpad' hafter']
  exact Document.keeps_record v v' d hps.isValue hchange h

/-- **A catalog's text may hold more than is known, and less** (`parse_catalog`). Where a catalog is
read from a text, the same catalog is read from it, with the same listing, however often any JSON
members under other keys are put into the catalog, a builder or a host, wherever they stand; their
members are put into another order; or a member with its default value is left out. -/
theorem edits_do_not_matter (h : ofBytes text = .ok d)
    (hedits : Relation.ReflTransGen Edited text text') :
    ofBytes text' = .ok d ∧ (ofBytes text').map creatable = (ofBytes text).map creatable := by
  have hsame : ofBytes text' = .ok d := by
    induction hedits with
    | refl => exact h
    | tail _ hedited ih => exact ofBytes_of_edited ih hedited
  exact ⟨hsame, by rw [hsame, h]⟩

/-- A member whose key is written as it is. -/
def member (key : String) (value : List UInt8) : Json.Pair := ⟨Utf8.encode key, value⟩

/-- The key needs no escapes. -/
def isPlainKey (key : String) : Bool := key.toList.all fun c => c ≠ '"' ∧ c ≠ '\\' ∧ 32 ≤ c.toNat

theorem hasKey_member {key : String} (h : isPlainKey key = true) (value : List UInt8) :
    (member key value).HasKey key :=
  Json.spells_encode fun c hc => of_decide_eq_true (List.all_eq_true.1 h c hc)

theorem isObject_of_hasKey {ps : List Json.Pair}
    (h : ∀ p ∈ ps, (∃ key, p.HasKey key) ∧ Json.IsValue p.value) : Json.IsObject ps (Json.objectOf ps) :=
  Json.isObject_objectOf (fun p hp => (h p hp).1.elim fun _ hkey => hkey.isLiteral)
    fun p hp => (h p hp).2

def oneBuilder (info : List UInt8) : List UInt8 := Json.objectOf [member "js-wasm" info]

def bareBuilder : List UInt8 := Json.objectOf []

def tags : List UInt8 := [91, 110, 117, 108, 108, 93]

def taggedBuilder : List UInt8 := Json.objectOf [member "Tags" tags]

/-- A catalog with one builder and no hosts. -/
def bareText : List UInt8 :=
  Json.objectOf [member "Hosts" (Json.objectOf []), member "Builders" (oneBuilder bareBuilder)]

/-- The catalog without the table of hosts, and with members that it and its builder do not know. -/
def editedText : List UInt8 :=
  Json.objectOf [member "Builders" (oneBuilder taggedBuilder), member "Next" [110, 117, 108, 108]]

theorem isObject_single {key : String} (hkey : isPlainKey key = true) {v : List UInt8}
    (h : Json.IsValue v) : Json.IsObject [member key v] (Json.objectOf [member key v]) :=
  isObject_of_hasKey (List.forall_mem_singleton.2 ⟨⟨_, hasKey_member hkey v⟩, h⟩)

theorem isObject_bareBuilder : Json.IsObject [] bareBuilder := Json.isObject_objectOf nofun nofun

theorem isValue_null : Json.IsValue [110, 117, 108, 108] := .word (by decide)

theorem isValue_tags : Json.IsValue tags :=
  .list (.next (.first Json.isPad_nil) rfl (.closed Json.isPad_nil))
    (List.forall_mem_singleton.2 isValue_null)

theorem isObject_taggedBuilder : Json.IsObject [member "Tags" tags] taggedBuilder :=
  isObject_single (by decide) isValue_tags

theorem isObject_oneBuilder {v : List UInt8} (h : Json.IsValue v) :
    Json.IsObject [member "js-wasm" v] (oneBuilder v) := isObject_single (by decide) h

theorem isObject_builders {v : List UInt8} (h : Json.IsValue v) :
    Json.IsObject [member "Builders" (oneBuilder v)] (Json.objectOf [member "Builders" (oneBuilder v)]) :=
  isObject_single (by decide) (isObject_oneBuilder h).isValue

theorem bareBuilder_edited : BuilderInfo.leeway.Edited bareBuilder taggedBuilder := by
  have hnew : BuilderInfo.leeway.Changes ([] ++ []) ([] ++ ([member "Tags" tags] ++ [])) :=
    .insert (List.forall_mem_singleton.2 ⟨"Tags", hasKey_member (by decide) _, by decide⟩)
  exact ⟨_, _, isObject_bareBuilder, isObject_taggedBuilder, hnew⟩

theorem isObject_bareText : Json.IsObject
    [member "Hosts" (Json.objectOf []), member "Builders" (oneBuilder bareBuilder)] bareText := by
  refine isObject_of_hasKey (List.forall_mem_cons.2 ⟨?_, List.forall_mem_singleton.2 ?_⟩)
  · exact ⟨⟨"Hosts", hasKey_member (by decide) _⟩, isObject_bareBuilder.isValue⟩
  · exact ⟨⟨"Builders", hasKey_member (by decide) _⟩,
      (isObject_oneBuilder isObject_bareBuilder.isValue).isValue⟩

theorem isObject_editedText : Json.IsObject
    [member "Builders" (oneBuilder taggedBuilder), member "Next" [110, 117, 108, 108]] editedText := by
  refine isObject_of_hasKey (List.forall_mem_cons.2 ⟨?_, List.forall_mem_singleton.2 ?_⟩)
  · exact ⟨⟨"Builders", hasKey_member (by decide) _⟩,
      (isObject_oneBuilder isObject_taggedBuilder.isValue).isValue⟩
  · exact ⟨⟨"Next", hasKey_member (by decide) _⟩, isValue_null⟩

theorem bareText_edits : Relation.ReflTransGen Edited bareText editedText := by
  have htop {v v' : List UInt8} (h : Document.leeway.Edited v v') : Edited v v' :=
    ⟨[], v, [], [], v', [], Json.isPad_nil, Json.isPad_nil, Json.isPad_nil, Json.isPad_nil,
      by simp, by simp, h⟩
  have hbare := isObject_builders isObject_bareBuilder.isValue
  have htagged := isObject_builders isObject_taggedBuilder.isValue
  have hremove : Document.leeway.Changes
      ([] ++ member "Hosts" (Json.objectOf []) :: [member "Builders" (oneBuilder bareBuilder)])
      ([] ++ [member "Builders" (oneBuilder bareBuilder)]) :=
    .remove (hasKey_member (by decide) _) (.inr ⟨rfl, by rfl⟩)
  have hwithin : Document.leeway.Changes ([] ++ [member "Builders" (oneBuilder bareBuilder)])
      ([] ++ [member "Builders" (oneBuilder taggedBuilder)]) :=
    .within (hasKey_member (by decide) _) (.inl ⟨rfl, [], _, _, [],
      isObject_oneBuilder isObject_bareBuilder.isValue,
      isObject_oneBuilder isObject_taggedBuilder.isValue, bareBuilder_edited⟩)
  have hinsert : Document.leeway.Changes ([member "Builders" (oneBuilder taggedBuilder)] ++ [])
      ([member "Builders" (oneBuilder taggedBuilder)] ++ ([member "Next" [110, 117, 108, 108]] ++ [])) :=
    .insert (List.forall_mem_singleton.2 ⟨"Next", hasKey_member (by decide) _, by decide⟩)
  exact .tail (.tail (.single (htop ⟨_, _, isObject_bareText, hbare, hremove⟩))
    (htop ⟨_, _, hbare, htagged, hwithin⟩)) (htop ⟨_, _, htagged, isObject_editedText, hinsert⟩)

theorem bareText_edited :
    ofBytes bareText = .ok ⟨⟨[("js-wasm", ⟨""⟩)], by decide⟩, .empty⟩ ∧
    Relation.ReflTransGen Edited bareText editedText ∧
    ofBytes editedText = .ok ⟨⟨[("js-wasm", ⟨""⟩)], by decide⟩, .empty⟩ := by
  have hread : ofBytes bareText = .ok ⟨⟨[("js-wasm", ⟨""⟩)], by decide⟩, .empty⟩ := by rfl
  exact ⟨hread, bareText_edits, (edits_do_not_matter hread bareText_edits).1⟩

end BuildFleet.Catalog
