import BuildFleet.Elapsed
import BuildFleet.Text.Lines
import BuildFleet.Text.Quoted
/-!
# Texts made of lines

`Cut` says line by line what the lines of a text are; the cutter, which holds a line in reverse, finds
these (`cut_iff`). A line without a line feed in it is cut off where its ending stands (`split_line`), and
what comes before an ending does not change how the rest is cut (`split_append`). So lines that are
written one after another are found again exactly if none of them has a line feed in it or ends in a
carriage return of its own (`split_flatMap_eq_iff`, `Text.lines_join_eq_iff`). Numbers, times and quoted
texts never break a line.
-/
namespace BuildFleet.Lines

variable {α : Type} [DecidableEq α] {lf cr : α}

/-- The line without the carriage return at its end, if there is one. -/
def withoutReturn (cr : α) (line : List α) : List α := (dropReturn cr line.reverse).reverse

theorem withoutReturn_concat (cr : α) (line : List α) : withoutReturn cr (line ++ [cr]) = line := by
  simp [withoutReturn, dropReturn]

theorem withoutReturn_of_getLast? {line : List α} (h : line.getLast? ≠ some cr) :
    withoutReturn cr line = line := by
  unfold withoutReturn
  have hhead : line.reverse.head? ≠ some cr := by
    rw [List.head?_reverse]
    exact h
  cases hline : line.reverse with
  | nil => rw [dropReturn, ← hline, List.reverse_reverse]
  | cons c r =>
    have hc : c ≠ cr := by
      intro hc
      rw [hline, hc] at hhead
      exact hhead rfl
    rw [dropReturn, if_neg hc, ← hline, List.reverse_reverse]

theorem splitFrom_of_not_mem {line : List α} (h : lf ∉ line) (held rest : List α) :
    splitFrom lf cr held (line ++ rest) = splitFrom lf cr (line.reverse ++ held) rest := by
  induction line generalizing held with
  | nil => rfl
  | cons c line ih =>
    have hc : c ≠ lf := by
      rintro rfl
      exact h List.mem_cons_self
    have hline : lf ∉ line := fun hm => h (List.mem_cons_of_mem _ hm)
    rw [List.cons_append, splitFrom, if_neg hc, ih hline]
    simp

/-- The first line of a text, and the lines of what follows it. -/
theorem split_line {line : List α} (h : lf ∉ line) (rest : List α) :
    split lf cr (line ++ lf :: rest) = withoutReturn cr line :: split lf cr rest := by
  rw [split, splitFrom_of_not_mem h, splitFrom, if_pos rfl, List.append_nil]
  rfl

theorem split_unended {line : List α} (h : lf ∉ line) (hne : line ≠ []) :
    split lf cr line = [line] := by
  have hrest : splitFrom lf cr [] (line ++ []) = splitFrom lf cr (line.reverse ++ []) [] :=
    splitFrom_of_not_mem h [] []
  rw [List.append_nil, List.append_nil] at hrest
  have hheld : line.reverse.isEmpty = false := by
    rw [List.isEmpty_reverse]
    exact List.isEmpty_eq_false_iff.2 hne
  rw [split, hrest, splitFrom, hheld]
  simp

/-- A text that is empty or ends a line is cut as if nothing followed it. -/
theorem split_append {before : List α} (h : before = [] ∨ ∃ start, before = start ++ [lf])
    (rest : List α) :
    split lf cr (before ++ rest) = split lf cr before ++ split lf cr rest := by
  rcases h with rfl | ⟨start, rfl⟩
  · rfl
  · rw [List.append_assoc]
    exact splitFrom_append lf cr [] start rest

/-- The lines of a text, one by one: a line feed ends a line, together with a carriage return right before
it, and what nothing ends is a line unless it is empty. -/
inductive Cut (lf cr : α) : List α → List (List α) → Prop where
  | nil : Cut lf cr [] []
  | unended {line} (h : lf ∉ line) (hne : line ≠ []) : Cut lf cr line [line]
  | ended {line rest lines} (h : lf ∉ line) (hcr : line.getLast? ≠ some cr)
    (hrest : Cut lf cr rest lines) : Cut lf cr (line ++ lf :: rest) (line :: lines)
  | endedWithReturn {line rest lines} (h : lf ∉ line) (hrest : Cut lf cr rest lines) :
    Cut lf cr (line ++ cr :: lf :: rest) (line :: lines)

theorem split_of_cut (hne : cr ≠ lf) {text : List α} {lines : List (List α)}
    (h : Cut lf cr text lines) : split lf cr text = lines := by
  induction h with
  | nil => rfl
  | unended h hne => exact split_unended h hne
  | ended h hcr _ ih => rw [split_line h, withoutReturn_of_getLast? hcr, ih]
  | @endedWithReturn line rest lines h _ ih =>
    have hline : lf ∉ line ++ [cr] := by simp [h, hne.symm]
    rw [List.append_cons, split_line hline, withoutReturn_concat, ih]

theorem exists_cut (lf cr : α) (text : List α) : ∃ lines, Cut lf cr text lines := by
  by_cases hlf : lf ∈ text
  · obtain ⟨line, rest, rfl, hline⟩ := List.eq_append_cons_of_mem hlf
    have hshorter : rest.length < (line ++ lf :: rest).length := by
      simp
      omega
    obtain ⟨lines, hrest⟩ := exists_cut lf cr rest
    by_cases hcr : line.getLast? = some cr
    · obtain ⟨start, rfl⟩ := List.getLast?_eq_some_iff.1 hcr
      have hstart : lf ∉ start := fun h => hline (List.mem_append_left _ h)
      rw [List.append_assoc]
      exact ⟨_, .endedWithReturn hstart hrest⟩
    · exact ⟨_, .ended hline hcr hrest⟩
  · by_cases hne : text = []
    · exact ⟨[], hne ▸ .nil⟩
    · exact ⟨[text], .unended hlf hne⟩
termination_by text.length

theorem cut_iff (hne : cr ≠ lf) {text : List α} {lines : List (List α)} :
    Cut lf cr text lines ↔ split lf cr text = lines := by
  refine ⟨split_of_cut hne, ?_⟩
  rintro rfl
  obtain ⟨lines, h⟩ := exists_cut lf cr text
  exact split_of_cut hne h ▸ h

omit [DecidableEq α] in
theorem Cut.not_mem {text : List α} {lines : List (List α)} (h : Cut lf cr text lines) :
    ∀ line ∈ lines, lf ∉ line := by
  induction h with
  | nil => exact fun line hl => absurd hl List.not_mem_nil
  | unended h => exact List.forall_mem_singleton.2 h
  | ended h _ _ ih => exact List.forall_mem_cons.2 ⟨h, ih⟩
  | endedWithReturn h _ ih => exact List.forall_mem_cons.2 ⟨h, ih⟩

/-- Lines that are written one after another are found again, but for carriage returns at their ends. -/
theorem split_flatMap_of_not_mem {lines : List (List α)} (h : ∀ line ∈ lines, lf ∉ line) :
    split lf cr (lines.flatMap (· ++ [lf])) = lines.map (withoutReturn cr) := by
  induction lines with
  | nil => rfl
  | cons line lines ih =>
    obtain ⟨hline, hlines⟩ := List.forall_mem_cons.1 h
    rw [List.flatMap_cons, List.append_assoc, List.singleton_append, split_line hline, ih hlines,
      List.map_cons]

/-- Lines that are written one after another are found again exactly if no line has an ending of its
own in it. -/
theorem split_flatMap_eq_iff (hne : cr ≠ lf) {lines : List (List α)} :
    split lf cr (lines.flatMap (· ++ [lf])) = lines ↔
      ∀ line ∈ lines, lf ∉ line ∧ line.getLast? ≠ some cr := by
  constructor
  · intro h
    have hlf : ∀ line ∈ lines, lf ∉ line := ((cut_iff hne).2 h).not_mem
    rw [split_flatMap_of_not_mem hlf] at h
    have hsame : ∀ line ∈ lines, withoutReturn cr line = line :=
      List.map_inj_left.1 (h.trans (List.map_id lines).symm)
    refine fun line hl => ⟨hlf line hl, fun hcr => ?_⟩
    obtain ⟨start, rfl⟩ := List.getLast?_eq_some_iff.1 hcr
    have hshort := hsame _ hl
    rw [withoutReturn_concat] at hshort
    exact List.cons_ne_nil cr [] (List.append_right_eq_self.1 hshort.symm)
  · intro h
    rw [split_flatMap_of_not_mem fun line hl => (h line hl).1]
    exact (List.map_congr_left fun line hl => withoutReturn_of_getLast? (h line hl).2).trans
      (List.map_id lines)

end BuildFleet.Lines

namespace BuildFleet.Text

/-- Lines that are written one under the other are the lines of the text exactly if none of them has an
ending of its own in it. -/
theorem lines_join_eq_iff {lines : List String} :
    Text.lines (String.join (lines.map (· ++ "\n"))) = lines ↔
      ∀ line ∈ lines, '\n' ∉ line.toList ∧ line.toList.getLast? ≠ some '\r' := by
  have htext : (String.join (lines.map (· ++ "\n"))).toList =
      (lines.map String.toList).flatMap (· ++ ['\n']) := by
    rw [String.toList_join, List.flatMap_map, List.flatMap_map]
    congr 1
    funext line
    exact String.toList_append
  have hread : ∀ found : List (List Char),
      found.map String.ofList = lines ↔ found = lines.map String.toList := by
    intro found
    constructor
    · rintro rfl
      simp
    · rintro rfl
      simp
  rw [Text.lines, htext, hread, Lines.split_flatMap_eq_iff (by decide), List.forall_mem_map]

theorem lines_join {lines : List String} (hlf : ∀ line ∈ lines, '\n' ∉ line.toList)
    (hcr : ∀ line ∈ lines, line.toList.getLast? ≠ some '\r') :
    Text.lines (String.join (lines.map (· ++ "\n"))) = lines :=
  lines_join_eq_iff.2 fun line hl => ⟨hlf line hl, hcr line hl⟩

theorem lineFeed_not_mem_toDigits {b : Nat} (hb : 1 < b) (hb' : b ≤ 16) (n : Nat) :
    '\n' ∉ b.toDigits n := by
  have hdigit : ∀ n < 16, '\n' ≠ n.digitChar := by decide
  induction n using Nat.strongRecOn with
  | _ n ih =>
    rw [Nat.toDigits_eq_if hb]
    split
    · rename_i hn
      simp [hdigit n (by omega)]
    · have hlast : n % b < b := Nat.mod_lt n (by omega)
      have hfirst : n / b < n := Nat.div_lt_self (by omega) hb
      simp [hdigit (n % b) (by omega), ih _ hfirst]

theorem lineFeed_not_mem_toString (n : Nat) : '\n' ∉ (toString n).toList := by
  rw [Nat.toString_eq_repr, Nat.toList_repr]
  exact lineFeed_not_mem_toDigits (by omega) (by omega) n

theorem lineFeed_not_mem_toString_int (n : Int) : '\n' ∉ (toString n).toList := by
  rw [Int.toString_eq_repr, Int.repr_eq_if]
  split
  · exact lineFeed_not_mem_toString n.toNat
  · rw [String.toList_append, List.mem_append, not_or]
    exact ⟨by decide, lineFeed_not_mem_toString (-n).toNat⟩

theorem lineFeed_not_mem_render (t : Span) : '\n' ∉ t.render.toList := by
  unfold Span.render Span.renderSeconds
  dsimp only
  split
  · simp [lineFeed_not_mem_toDigits]
  split
  · simp [lineFeed_not_mem_toDigits]
  · simp [lineFeed_not_mem_toDigits]

theorem lineFeed_not_mem_quoteChar (c : Char) : '\n' ∉ quoteChar c := by
  have hnumber : '\n' ∉ hexNumber c.toNat := lineFeed_not_mem_toDigits (by omega) (by omega) _
  unfold quoteChar
  grind

theorem lineFeed_not_mem_quoted (s : String) : '\n' ∉ (quoted s).toList := by
  rw [quoted, String.toList_append, String.toList_append, String.toList_ofList]
  simp [lineFeed_not_mem_quoteChar]

end BuildFleet.Text
