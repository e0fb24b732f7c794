import BuildFleet.CommandLine.Parse
import Mathlib.Data.List.Forall2
import Mathlib.Data.List.Nodup
/-!
# Spellings of a command line (`CreateArgs`)

What the arguments of the create command say is a list of settings, in any order, each of which can be
spelled in the ways of `Spells`. Reading the words of one spelling puts the setting into what has been
read, however the next word is to be taken (`Spells.readWords`). So every spelling of some arguments, in
every order of its settings, is read as these arguments (`read_spelled`).
-/
namespace BuildFleet.CommandLine

/-! ## Counts in words -/

/-- The digits of a number are read as the number, and what follows them as more digits. -/
theorem readDigits_toDigits {n : Nat} (h : n ≤ maxCount) (rest : List Char) :
    readDigits 0 (Nat.toDigits 10 n ++ rest) = readDigits n rest := by
  have hdigit : ∀ d < 10, ('0' ≤ d.digitChar && d.digitChar ≤ '9') = true := by decide
  have hread : ∀ m d, d < 10 → m * 10 + d ≤ maxCount → ∀ rest,
      readDigits m (d.digitChar :: rest) = readDigits (m * 10 + d) rest := by
    intro m d hd hfits rest
    rw [readDigits, hdigit d hd]
    simp only [Nat.toNat_digitChar_sub_48_of_lt_ten hd, Nat.not_lt.2 hfits]
    rfl
  induction n using Nat.strongRecOn generalizing rest with
  | _ n ih =>
    rw [Nat.toDigits_eq_if (by omega)]
    split
    · rename_i hn
      have hlast := hread 0 n hn (by omega) rest
      rwa [Nat.zero_mul, Nat.zero_add] at hlast
    · have hlast : n / 10 * 10 + n % 10 = n := Nat.div_add_mod' n 10
      rw [List.append_assoc, ih (n / 10) (by omega) (by omega), List.singleton_append,
        hread _ _ (by omega) (by omega), hlast]

theorem readCount_toString {n : Nat} (h : n ≤ maxCount) : readCount (toString n) = .ok n := by
  have hread := readDigits_toDigits h []
  rw [List.append_nil, readDigits] at hread
  unfold readCount
  rw [Nat.toString_eq_repr, Nat.toList_repr]
  split
  · rename_i hnil
    exact absurd hnil Nat.toDigits_ne_nil
  · rename_i hplus
    have hmem : '+' ∈ Nat.toDigits 10 n := hplus ▸ List.mem_cons_self
    exact absurd (Nat.isDigit_of_mem_toDigits (by omega) (by omega) hmem) (by decide)
  · exact hread

/-! ## Settings -/

/-- One thing that a command line can set. -/
inductive Setting where
  | status (on : Bool)
  | count (n : Nat)
  | setup
  | newGroup (name : String)
  | allOrNothing
  | legacy
  | builderType (name : String)
  deriving DecidableEq

namespace Setting

/-- The option that makes the setting; the builder type goes without one. -/
def option? : Setting → Option Opt
  | status _ => some .status
  | count _ => some .count
  | setup => some .setup
  | newGroup _ => some .newGroup
  | allOrNothing => some .allOrNothing
  | legacy => some .legacy
  | builderType _ => none

/-- Puts the setting into what has been read. -/
def put (d : Draft) : Setting → Draft
  | status on => { d with status := some on }
  | count n => { d with count := some n }
  | setup => { d with setup := true }
  | newGroup name => { d with newGroup := some name }
  | allOrNothing => { d with allOrNothing := true }
  | legacy => { d with legacy := true }
  | builderType name => { d with builderType := some name }

end Setting

/-- Nothing has been set yet by an option, or no builder type has been given. -/
def Draft.lacks (d : Draft) : Option Opt → Prop
  | some o => d.used o = false
  | none => d.builderType = none

/-- The word does not start with a dash. -/
def IsPlain (word : String) : Prop := word.toList.head? ≠ some '-'

instance : DecidablePred IsPlain := fun _ => inferInstanceAs (Decidable (_ ≠ _))

inductive Spells : Setting → List String → Prop where
  | status (on : Bool) : Spells (.status on) ["--status=" ++ toString on]
  | statusAlone : Spells (.status true) ["--status"]
  | count (n : Nat) (h : n ≤ maxCount) : Spells (.count n) ["--count=" ++ toString n]
  | countApart (n : Nat) (h : n ≤ maxCount) : Spells (.count n) ["--count", toString n]
  | setup : Spells .setup ["--setup"]
  | newGroup (name : String) : Spells (.newGroup name) ["--new-group=" ++ name]
  | newGroupApart (name : String) (h : IsPlain name) :
    Spells (.newGroup name) ["--new-group", name]
  | allOrNothing : Spells .allOrNothing ["--all-or-nothing"]
  | legacy : Spells .legacy ["--legacy"]
  | builderType (name : String) (h : IsPlain name) : Spells (.builderType name) [name]

/-! ## Single words -/

theorem Word.of_eq_plain {word : String} (h : IsPlain word) : Word.of word = .plain := by
  unfold IsPlain at h
  unfold Word.of
  split <;> simp_all

theorem isPlain_toString (n : Nat) : IsPlain (toString n) := by
  intro h
  rw [Nat.toString_eq_repr, Nat.toList_repr] at h
  exact absurd (Nat.isDigit_of_mem_toDigits (by omega) (by omega) (List.mem_of_head? h)) (by decide)

theorem ne_escape_of_isPlain {word : String} (h : IsPlain word) : (word == "--") = false := by
  rw [beq_eq_false_iff_ne]
  rintro rfl
  exact h rfl

theorem Word.of_append (o : Opt) (value : String) :
    Word.of ("--" ++ o.name ++ "=" ++ value) = .long o.name (some value) := by
  have hlist : ("--" ++ o.name ++ "=" ++ value).toList =
      '-' :: '-' :: (o.name.toList ++ '=' :: value.toList) := by
    simp [String.toList_append]
  unfold Word.of
  rw [hlist]
  cases o <;> simp [Opt.name, splitLong]

theorem Opt.ofName?_name (o : Opt) : Opt.ofName? o.name = some o := by
  cases o <;> rfl

theorem Opt.name_ne_help (o : Opt) : o.name ≠ "help" := by
  cases o <;> decide

theorem append_ne_escape (o : Opt) (value : String) :
    (("--" ++ o.name ++ "=" ++ value) == "--") = false := by
  rw [beq_eq_false_iff_ne]
  intro h
  have hlist := congrArg (fun s => s.toList.length) h
  simp [String.toList_append] at hlist

theorem Word.of_name (o : Opt) : Word.of ("--" ++ o.name) = .long o.name none := by
  cases o <;> rfl

theorem name_ne_escape (o : Opt) : (("--" ++ o.name) == "--") = false := by
  cases o <;> decide

/-! ## Words of the create command -/

section
variable {d e : Draft} {pending : Pending}

/-- A value behind an equals sign is taken at once. -/
theorem readWords_joined (hpending : pending.resolve d = .ok e) {o : Opt} (hfree : e.used o = false)
    (hflag : o.isFlag = false) {value : String} {e' : Draft}
    (hassign : e.assign o (some value) = .ok e') (rest : List String) :
    readWords d pending false (("--" ++ o.name ++ "=" ++ value) :: rest) =
      readWords e' .nothing false rest := by
  have hset : e.set o (some value) = .ok e' := by rw [Draft.set, hfree]; exact hassign
  have hword : readWord d pending ("--" ++ o.name ++ "=" ++ value) = .ok (e', .nothing) := by
    unfold readWord
    rw [Word.of_append]
    simp only [readLong, if_neg o.name_ne_help, Opt.ofName?_name, hflag, hpending]
    simp [Except.bind, hset, Except.map]
  rw [readWords, append_ne_escape]
  simp [hword]

theorem readWords_alone (hpending : pending.resolve d = .ok e) {o : Opt} (hfree : e.used o = false)
    (hword : o.takesWord = false) {e' : Draft} (hassign : e.assign o none = .ok e')
    (rest : List String) :
    readWords d pending false (("--" ++ o.name) :: rest) = readWords e' .nothing false rest := by
  have hset : e.set o none = .ok e' := by rw [Draft.set, hfree]; exact hassign
  have hread : readWord d pending ("--" ++ o.name) = .ok (e', .nothing) := by
    unfold readWord
    rw [Word.of_name]
    simp only [readLong, if_neg o.name_ne_help, Opt.ofName?_name, hword, hpending]
    simp [Except.bind, hset, Except.map]
  rw [readWords, name_ne_escape]
  simp [hread]

/-- A value in the next word is kept until it is looked at. -/
theorem readWords_apart (hpending : pending.resolve d = .ok e) {o : Opt} (hword : o.takesWord = true)
    {value : String} (hvalue : IsPlain value) (rest : List String) :
    readWords d pending false (("--" ++ o.name) :: value :: rest) =
      readWords e (.value o value) false rest := by
  have hoption : readWord d pending ("--" ++ o.name) = .ok (e, .option o) := by
    unfold readWord
    rw [Word.of_name]
    simp only [readLong, if_neg o.name_ne_help, Opt.ofName?_name, hword, hpending]
    rfl
  have hnext : readWord e (.option o) value = .ok (e, .value o value) := by
    unfold readWord
    rw [Word.of_eq_plain hvalue]
  rw [readWords, name_ne_escape]
  simp only [Bool.false_eq_true, if_false, hoption, Bool.or_false]
  rw [readWords, ne_escape_of_isPlain hvalue]
  simp [hnext]

theorem Draft.builderType_assign {o : Opt} {value : Option String} (h : d.assign o value = .ok e) :
    e.builderType = d.builderType := by
  unfold assign at h
  repeat' split at h
  all_goals cases h
  all_goals rfl

/-- Where no builder type has been set, none is pending and none was given before. -/
theorem builderType_eq_none (hpending : pending.resolve d = .ok e) (hfree : e.builderType = none) :
    (d.builderType.isSome || pending.isBuilderType) = false := by
  cases pending with
  | nothing =>
    cases hpending
    simp [hfree, Pending.isBuilderType]
  | option o => cases hpending
  | builderType name =>
    cases hpending
    cases hfree
  | value o value =>
    simp only [Pending.resolve, Draft.set] at hpending
    split at hpending
    · cases hpending
    · rw [Draft.builderType_assign hpending] at hfree
      simp [hfree, Pending.isBuilderType]

/-- A plain word is kept as the builder type until it is looked at. -/
theorem readWords_plain (hpending : pending.resolve d = .ok e) (hfree : e.builderType = none)
    {word : String} (hword : IsPlain word) (rest : List String) :
    readWords d pending false (word :: rest) = readWords e (.builderType word) false rest := by
  have hplain : readPlain d pending word = .ok (e, .builderType word) := by
    simp only [readPlain, builderType_eq_none hpending hfree, hpending]
    rfl
  have hread : readWord d pending word = .ok (e, .builderType word) := by
    unfold readWord
    rw [Word.of_eq_plain hword]
    cases pending with
    | option o => cases hpending
    | nothing | value | builderType => exact hplain
  rw [readWords, ne_escape_of_isPlain hword]
  simp [hread]

/-! ## Spelled settings -/

/-- **Reading the words of a setting puts it in**, behind whatever was read before and in front of
whatever follows: a value or a builder type may be left pending, but once it is looked at the setting is
there and nothing else has changed. -/
theorem Spells.readWords {s : Setting} {words : List String} (h : Spells s words)
    (hpending : pending.resolve d = .ok e) (hfree : e.lacks s.option?) :
    ∃ d' pending', pending'.resolve d' = .ok (s.put e) ∧
      ∀ rest, readWords d pending false (words ++ rest) = readWords d' pending' false rest := by
  cases h with
  | status on =>
    have hassign : e.assign .status (some (toString on)) = .ok ((Setting.status on).put e) := by
      cases on <;> rfl
    exact ⟨_, .nothing, rfl, readWords_joined hpending hfree rfl hassign⟩
  | statusAlone => exact ⟨_, .nothing, rfl, readWords_alone hpending hfree rfl rfl⟩
  | count n hn =>
    have hassign : e.assign .count (some (toString n)) = .ok ((Setting.count n).put e) := by
      simp only [Draft.assign, readCount_toString hn]
      rfl
    exact ⟨_, .nothing, rfl, readWords_joined hpending hfree rfl hassign⟩
  -- A value in a word of its own is pending until the next word, or the end, is looked at.
  | countApart n hn =>
    have hresolve : (Pending.value .count (toString n)).resolve e = .ok ((Setting.count n).put e) := by
      have hused : e.used .count = false := hfree
      simp only [Pending.resolve, Draft.set, hused, Draft.assign, readCount_toString hn]
      rfl
    exact ⟨e, _, hresolve, readWords_apart (o := .count) hpending rfl (isPlain_toString n)⟩
  | setup => exact ⟨_, .nothing, rfl, readWords_alone hpending hfree rfl rfl⟩
  | newGroup name => exact ⟨_, .nothing, rfl, readWords_joined hpending hfree rfl rfl⟩
  | newGroupApart name hname =>
    have hresolve : (Pending.value .newGroup name).resolve e =
        .ok ((Setting.newGroup name).put e) := by
      have hused : e.used .newGroup = false := hfree
      simp only [Pending.resolve, Draft.set, hused, Draft.assign]
      rfl
    exact ⟨e, _, hresolve, readWords_apart (o := .newGroup) hpending rfl hname⟩
  | allOrNothing => exact ⟨_, .nothing, rfl, readWords_alone hpending hfree rfl rfl⟩
  | legacy => exact ⟨_, .nothing, rfl, readWords_alone hpending hfree rfl rfl⟩
  | builderType name hname => exact ⟨e, _, rfl, readWords_plain hpending hfree hname⟩

end

/-- A setting takes only its own option. -/
theorem Draft.lacks_put {e : Draft} {s : Setting} {o : Option Opt} (h : e.lacks o)
    (hne : s.option? ≠ o) : (s.put e).lacks o := by
  cases s <;> rcases o with _ | (_ | _ | _ | _ | _ | _) <;>
    first | exact h | exact absurd rfl hne

/-- Reading a row of spelled settings, none of which is made twice, puts in one after the other. -/
theorem readWords_settings {settings : List Setting} {parts : List (List String)}
    (h : List.Forall₂ Spells settings parts) (hnodup : (settings.map Setting.option?).Nodup)
    {d e : Draft} {pending : Pending} (hpending : pending.resolve d = .ok e)
    (hfree : ∀ s ∈ settings, e.lacks s.option?) :
    readWords d pending false parts.flatten = .ok (settings.foldl Setting.put e).args := by
  induction h generalizing d e pending with
  | nil => simp only [List.flatten_nil, readWords, hpending, List.foldl_nil]; rfl
  | cons hspells hparts ih =>
    rename_i s words settings parts
    rw [List.map_cons, List.nodup_cons] at hnodup
    obtain ⟨hs, hsettings⟩ := List.forall_mem_cons.1 hfree
    obtain ⟨d', pending', hresolve, hread⟩ := hspells.readWords hpending hs
    rw [List.flatten_cons, hread, List.foldl_cons]
    refine ih hnodup.2 hresolve fun t ht => Draft.lacks_put (hsettings t ht) ?_
    intro heq
    exact hnodup.1 (heq ▸ List.mem_map_of_mem ht)

theorem Setting.put_comm {s t : Setting} (h : s.option? ≠ t.option?) (d : Draft) :
    t.put (s.put d) = s.put (t.put d) := by
  cases s <;> cases t <;> first | rfl | exact absurd rfl h

/-- In which order settings are made does not matter if none is made twice. -/
theorem foldl_put_of_perm {settings settings' : List Setting} (h : settings.Perm settings')
    (hnodup : (settings.map Setting.option?).Nodup) (d : Draft) :
    settings.foldl Setting.put d = settings'.foldl Setting.put d := by
  refine h.foldl_eq' (fun s hs t ht d => ?_) d
  by_cases heq : s.option? = t.option?
  · rw [List.inj_on_of_nodup_map hnodup hs ht heq]
  · exact Setting.put_comm heq d

/-! ## Command lines -/

def flagSettings (on : Bool) (s : Setting) : List Setting := if on then [s] else []

namespace CreateArgs

/-- What arguments set, option by option and the builder type last, given the settings of the status and
of the count. -/
def settings (a : CreateArgs) (status count : List Setting) : List Setting :=
  status ++ (count ++ (flagSettings a.setup .setup ++ (a.newGroup.toList.map .newGroup ++
    (flagSettings a.allOrNothing .allOrNothing ++ (flagSettings a.legacy .legacy ++
      a.builderType.toList.map .builderType)))))

/-- The settings are those that arguments call for, in some order. A status and a count that are the
default anyway may be left out. -/
def CallsFor (a : CreateArgs) (settings : List Setting) : Prop :=
  ∃ status count, (status = [.status a.status] ∨ status = [] ∧ a.status = true) ∧
    (count = [.count a.count] ∨ count = [] ∧ a.count = 1) ∧
    settings.Perm (a.settings status count)

variable {a : CreateArgs} {status count : List Setting}

theorem nodup_settings (hstatus : status = [.status a.status] ∨ status = [] ∧ a.status = true)
    (hcount : count = [.count a.count] ∨ count = [] ∧ a.count = 1) :
    ((a.settings status count).map Setting.option?).Nodup := by
  have hflag : ∀ on s, ((flagSettings on s).map Setting.option?).Sublist [s.option?] := by
    intro on s
    cases on <;> simp [flagSettings]
  have hgroup : ((a.newGroup.toList.map .newGroup).map Setting.option?).Sublist [some .newGroup] := by
    cases a.newGroup <;> simp [Setting.option?]
  have htype : ((a.builderType.toList.map .builderType).map Setting.option?).Sublist [none] := by
    cases a.builderType <;> simp [Setting.option?]
  have hfirst : (status.map Setting.option?).Sublist [some .status] := by
    rcases hstatus with rfl | ⟨rfl, -⟩ <;> simp [Setting.option?]
  have hsecond : (count.map Setting.option?).Sublist [some .count] := by
    rcases hcount with rfl | ⟨rfl, -⟩ <;> simp [Setting.option?]
  have hall : ((a.settings status count).map Setting.option?).Sublist
      [some .status, some .count, some .setup, some .newGroup, some .allOrNothing, some .legacy,
        none] := by
    simp only [settings, List.map_append]
    exact hfirst.append (hsecond.append ((hflag _ .setup).append (hgroup.append
      ((hflag _ .allOrNothing).append ((hflag _ .legacy).append htype)))))
  exact hall.nodup (by decide)

/-- With all that arguments call for, the draft is the arguments. -/
theorem args_settings (hstatus : status = [.status a.status] ∨ status = [] ∧ a.status = true)
    (hcount : count = [.count a.count] ∨ count = [] ∧ a.count = 1) :
    ((a.settings status count).foldl Setting.put {}).args = a := by
  obtain ⟨on, n, setup, newGroup, allOrNothing, legacy, builderType⟩ := a
  have hstart : ∃ s c, (count.foldl Setting.put (status.foldl Setting.put {})) =
      { status := s, count := c } ∧ s.getD true = on ∧ c.getD 1 = n := by
    rcases hstatus with rfl | ⟨rfl, hon⟩ <;> rcases hcount with rfl | ⟨rfl, hn⟩ <;>
      exact ⟨_, _, rfl, by simp_all [Setting.put], by simp_all⟩
  obtain ⟨s, c, hstart, hs, hc⟩ := hstart
  simp only [settings, List.foldl_append, hstart]
  cases setup <;> cases allOrNothing <;> cases legacy <;> cases newGroup <;> cases builderType <;>
    simp [flagSettings, Setting.put, Draft.args, hs, hc]

end CreateArgs

/-- **Every spelling of a command line is read as what it spells, in any order** (`CreateArgs`).
Whatever the arguments are, the settings that they call for may come in any order, each in any of
its spellings and the builder type anywhere between them: the command line is accepted, and these
are the arguments. -/
theorem read_spelled {a : CreateArgs} {settings : List Setting} (hsettings : a.CallsFor settings)
    {parts : List (List String)} (hparts : List.Forall₂ Spells settings parts) :
    read ("create" :: parts.flatten) = .ok a := by
  obtain ⟨status, count, hstatus, hcount, hperm⟩ := hsettings
  have hnodup : (settings.map Setting.option?).Nodup :=
    (hperm.map Setting.option?).nodup_iff.2 (CreateArgs.nodup_settings hstatus hcount)
  have hfree : ∀ s ∈ settings, (({} : Draft).lacks s.option?) := by
    intro s _
    cases s <;> rfl
  have hread : readWords {} .nothing false parts.flatten =
      .ok (settings.foldl Setting.put {}).args := readWords_settings hparts hnodup rfl hfree
  rw [foldl_put_of_perm hperm hnodup, CreateArgs.args_settings hstatus hcount] at hread
  exact hread

def fullArgs : CreateArgs := ⟨true, 12, true, some "a=b", true, true, some "linux-amd64"⟩

/-- What they call for, the builder type right behind the status. -/
def fullSettings : List Setting :=
  [.allOrNothing, .status true, .builderType "linux-amd64", .count 12, .legacy, .newGroup "a=b", .setup]

/-- One way to spell it: the status without a value, the count in two words. -/
def fullParts : List (List String) :=
  [["--all-or-nothing"], ["--status"], ["linux-amd64"], ["--count", "12"], ["--legacy"],
    ["--new-group=a=b"], ["--setup"]]

theorem fullArgs_spelled :
    fullArgs.CallsFor fullSettings ∧ List.Forall₂ Spells fullSettings fullParts ∧
      read ("create" :: fullParts.flatten) = .ok fullArgs := by
  have hsettings : fullArgs.CallsFor fullSettings :=
    ⟨[.status true], [.count 12], .inl rfl, .inl rfl, by decide⟩
  have hparts : List.Forall₂ Spells fullSettings fullParts :=
    .cons .allOrNothing <| .cons .statusAlone <| .cons (.builderType _ (by decide)) <|
      .cons (.countApart 12 (by decide)) <| .cons .legacy <| .cons (.newGroup "a=b") <|
      .cons .setup .nil
  exact ⟨hsettings, hparts, read_spelled hsettings hparts⟩

end BuildFleet.CommandLine
