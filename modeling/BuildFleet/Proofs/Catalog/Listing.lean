import BuildFleet.Catalog
import Mathlib.Data.List.Basic
import Mathlib.Data.List.Nodup
/-!
# The listing of a catalog (`creatable_builders`)

Which builder types a catalog offers is said entry by entry (`Document.Offers`): the listing holds these
and no others, each once, in the order of the bytes of their names (`listing_exact`). A strictly sorted
list is given by its members, so the order in which the catalog's tables hold their entries leaves no
trace in it.
-/
namespace BuildFleet

/-! ## The order of texts -/

namespace Utf8

theorem le_trans {s t u : String} (hst : le s t = true) (htu : le t u = true) : le s u = true := by
  unfold le at *
  exact decide_eq_true (List.le_trans (of_decide_eq_true hst) (of_decide_eq_true htu))

theorem le_total (s t : String) : (le s t || le t s) = true := by
  unfold le
  rw [Bool.or_eq_true, decide_eq_true_eq, decide_eq_true_eq]
  exact List.le_total (encode s) (encode t)

/-- Different texts have different bytes, so of two one comes first. -/
theorem lt_of_le_of_ne {s t : String} (h : le s t = true) (hne : s ≠ t) : encode s < encode t :=
  Std.lt_of_le_of_ne (of_decide_eq_true h) fun he => hne (encode_injective he)

end Utf8

namespace Catalog

/-! ## Offers -/

/-- A builder type is on offer when the catalog has a builder of its name, not a hidden one, that runs on
a known host, and the host is a registered machine or has an image to boot. It tells which of both, and
how many machines are expected, unless that is no count of 32 bits. -/
def Document.Offers (d : Document) (b : BuilderType) : Prop :=
  ∃ info host, d.builders.get? b.name = some info ∧ d.hosts.get? info.hostType = some host ∧
    ¬"misc-compile".toList <+: b.name.toList ∧
    (host.isReverse = true ∨ host.containerImage ≠ "" ∨ host.vmImage ≠ "") ∧
    b.isReverse = host.isReverse ∧
    (b.expectNum.toNat : Int) =
      if 0 ≤ host.expectNum.toInt ∧ host.expectNum.toInt ≤ 4294967295 then host.expectNum.toInt
      else 0

theorem isHidden_iff {name : String} :
    isHidden name = true ↔ "misc-compile".toList <+: name.toList :=
  List.isPrefixOf_iff_prefix

theorem HostInfo.isUsable_iff {host : HostInfo} : host.isUsable = true ↔
    host.isReverse = true ∨ host.containerImage ≠ "" ∨ host.vmImage ≠ "" := by
  simp [isUsable, or_assoc]

theorem HostInfo.toNat_machines (host : HostInfo) : (host.machines.toNat : Int) =
    if 0 ≤ host.expectNum.toInt ∧ host.expectNum.toInt ≤ 4294967295 then host.expectNum.toInt
    else 0 := by
  unfold machines
  generalize host.expectNum.toInt = n
  have hsize : ((UInt32.size : Nat) : Int) = 4294967296 := rfl
  by_cases h : 0 ≤ n ∧ n < UInt32.size
  · have hn : 0 ≤ n ∧ n ≤ 4294967295 := by omega
    have hfits : n.toNat < UInt32.size := by omega
    rw [if_pos h, if_pos hn, UInt32.toNat_ofNat_of_lt' hfits]
    omega
  · have hn : ¬(0 ≤ n ∧ n ≤ 4294967295) := by omega
    rw [if_neg h, if_neg hn]
    rfl

/-- An entry is offered under its own name, with what its host says. -/
theorem offer_eq_some_iff {hosts : Table HostInfo} {entry : String × BuilderInfo} {b : BuilderType} :
    offer hosts entry = some b ↔ isHidden entry.1 = false ∧
      ∃ host, hosts.get? entry.2.hostType = some host ∧ host.isUsable = true ∧
        b = ⟨entry.1, host.isReverse, host.machines⟩ := by
  unfold offer
  cases hhidden : isHidden entry.1 with
  | true => simp
  | false =>
    cases hhost : hosts.get? entry.2.hostType with
    | none => simp
    | some host =>
      cases husable : host.isUsable with
      | true =>
        simp only [Bool.false_eq_true, if_false, husable, if_true, Option.some.injEq, true_and]
        constructor
        · rintro rfl
          exact ⟨host, rfl, husable, rfl⟩
        · rintro ⟨_, rfl, -, rfl⟩
          rfl
      | false => simp [husable]

/-! ## The listing -/

variable {d d' : Document} {b : BuilderType}

theorem mem_creatable_iff : b ∈ creatable d ↔ d.Offers b := by
  unfold creatable Document.Offers
  rw [List.mem_mergeSort, List.mem_filterMap]
  constructor
  · rintro ⟨⟨name, info⟩, hentry, hoffer⟩
    obtain ⟨hhidden, host, hhost, husable, rfl⟩ := offer_eq_some_iff.1 hoffer
    refine ⟨info, host, Table.get?_eq_some_iff.2 hentry, hhost, ?_, HostInfo.isUsable_iff.1 husable,
      rfl, host.toNat_machines⟩
    intro hprefix
    rw [isHidden_iff.2 hprefix] at hhidden
    cases hhidden
  · rintro ⟨info, host, hbuilder, hhost, hvisible, husable, hreverse, hcount⟩
    have hmachines : b.expectNum = host.machines :=
      UInt32.toNat_inj.1 (Int.natCast_inj.1 (hcount.trans host.toNat_machines.symm))
    refine ⟨(b.name, info), Table.get?_eq_some_iff.1 hbuilder, offer_eq_some_iff.2 ⟨?_, host, hhost,
      HostInfo.isUsable_iff.2 husable, ?_⟩⟩
    · exact Bool.eq_false_iff.2 fun hhidden => hvisible (isHidden_iff.1 hhidden)
    · rw [← hreverse, ← hmachines]

/-- Each name is listed once, as each is the key of one builder. -/
theorem pairwise_name_ne_creatable (d : Document) :
    (creatable d).Pairwise fun a b => a.name ≠ b.name := by
  have hkeys : d.builders.entries.Pairwise fun e e' => e.1 ≠ e'.1 :=
    List.pairwise_map.1 d.builders.nodup
  have hoffers : (d.builders.entries.filterMap (offer d.hosts)).Pairwise
      fun a b => a.name ≠ b.name := by
    refine hkeys.filterMap _ fun e e' hne a ha b hb => ?_
    obtain ⟨-, host, -, -, rfl⟩ := offer_eq_some_iff.1 ha
    obtain ⟨-, host', -, -, rfl⟩ := offer_eq_some_iff.1 hb
    exact hne
  exact ((List.mergeSort_perm _ _).pairwise_iff Ne.symm).2 hoffers

theorem pairwise_creatable (d : Document) :
    (creatable d).Pairwise fun a b => Utf8.encode a.name < Utf8.encode b.name := by
  have htrans : ∀ a b c : BuilderType, Utf8.le a.name b.name = true → Utf8.le b.name c.name = true →
      Utf8.le a.name c.name = true := fun _ _ _ => Utf8.le_trans
  have htotal : ∀ a b : BuilderType, (Utf8.le a.name b.name || Utf8.le b.name a.name) = true :=
    fun a b => Utf8.le_total a.name b.name
  have hsorted : (creatable d).Pairwise fun a b => Utf8.le a.name b.name = true :=
    List.pairwise_mergeSort htrans htotal _
  exact hsorted.imp₂ (fun _ _ hle hne => Utf8.lt_of_le_of_ne hle hne) (pairwise_name_ne_creatable d)

/-- A list that is strictly sorted by name is given by its members. -/
theorem eq_of_pairwise_of_mem_iff {l l' : List BuilderType}
    (h : l.Pairwise fun a b => Utf8.encode a.name < Utf8.encode b.name)
    (h' : l'.Pairwise fun a b => Utf8.encode a.name < Utf8.encode b.name)
    (hmem : ∀ b, b ∈ l ↔ b ∈ l') : l = l' := by
  have hne : ∀ a b : BuilderType, Utf8.encode a.name < Utf8.encode b.name → a ≠ b := by
    rintro a b hlt rfl
    exact List.lt_irrefl _ hlt
  have hperm : l.Perm l' := (List.perm_ext_iff_of_nodup (h.imp (hne _ _)) (h'.imp (hne _ _))).2 hmem
  exact hperm.eq_of_pairwise (fun _ _ _ _ hab hba => absurd hba (List.lt_asymm hab)) h h'

/-- **The listing is exact, and the same in whatever order a catalog's tables are gone through**
(`creatable_builders`). The builder types that can be created come strictly sorted by the bytes of
their names, and are those on offer: the visible builders on known hosts from which instances can be
had. -/
theorem listing_exact (d : Document) :
    (creatable d).Pairwise (fun a b => Utf8.encode a.name < Utf8.encode b.name) ∧
    (∀ b, b ∈ creatable d ↔ d.Offers b) ∧
    ∀ d' : Document, d'.builders.entries.Perm d.builders.entries →
      d'.hosts.entries.Perm d.hosts.entries → creatable d' = creatable d := by
  refine ⟨pairwise_creatable d, fun b => mem_creatable_iff, fun d' hbuilders hhosts => ?_⟩
  refine eq_of_pairwise_of_mem_iff (pairwise_creatable d') (pairwise_creatable d) fun b => ?_
  have hsame : d'.Offers b ↔ d.Offers b := by
    unfold Document.Offers
    simp only [Table.get?_of_perm hbuilders, Table.get?_of_perm hhosts]
  rw [mem_creatable_iff, mem_creatable_iff, hsame]

/-- A catalog with a fixed pool of machines and machines made on demand, next to a hidden builder, one on
a host that is not known and one whose host has nothing to boot. -/
def mixedCatalog : Document where
  builders := ⟨[("windows-amd64", ⟨"cloud"⟩), ("misc-compile-plan9", ⟨"cloud"⟩), ("ghost", ⟨"lost"⟩),
    ("darwin-arm64", ⟨"rack"⟩), ("js-wasm", ⟨"bare"⟩)], by decide⟩
  hosts := ⟨[("cloud", ⟨false, 0, "", "server-2016"⟩), ("rack", ⟨true, 4294967296, "", ""⟩),
    ("bare", ⟨false, 7, "", ""⟩)], by decide⟩

/-- The same catalog, gone through the other way round. -/
def mixedCatalogReversed : Document where
  builders := ⟨mixedCatalog.builders.entries.reverse, by decide⟩
  hosts := ⟨mixedCatalog.hosts.entries.reverse, by decide⟩

theorem mixedCatalog_listed :
    mixedCatalogReversed.builders.entries.Perm mixedCatalog.builders.entries ∧
    mixedCatalogReversed.hosts.entries.Perm mixedCatalog.hosts.entries ∧
    creatable mixedCatalogReversed = creatable mixedCatalog ∧
    creatable mixedCatalog = [⟨"darwin-arm64", true, 0⟩, ⟨"windows-amd64", false, 0⟩] := by
  have hbuilders := List.reverse_perm mixedCatalog.builders.entries
  have hhosts := List.reverse_perm mixedCatalog.hosts.entries
  have hoffers : mixedCatalog.builders.entries.filterMap (offer mixedCatalog.hosts) =
      [⟨"windows-amd64", false, 0⟩, ⟨"darwin-arm64", true, 0⟩] := by decide +kernel
  have horder : Utf8.le "windows-amd64" "darwin-arm64" = false := by decide +kernel
  refine ⟨hbuilders, hhosts, (listing_exact mixedCatalog).2.2 mixedCatalogReversed hbuilders hhosts, ?_⟩
  unfold creatable
  rw [hoffers]
  simp [List.mergeSort, List.MergeSort.Internal.splitInTwo, horder]

end Catalog

end BuildFleet
