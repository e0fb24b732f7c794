/-!
# Lines

A line ends at a line feed; a carriage return right before that line feed belongs to the ending.
What follows the last line feed is a line only if it is not empty, and keeps its carriage return.
The same cut serves characters and bytes, so it is stated over any symbols.
-/
namespace BuildFleet.Lines

variable {α : Type} [DecidableEq α]

/-- Drops one `cr` from the end of a line held in reverse. -/
def dropReturn (cr : α) : List α → List α
  | [] => []
  | c :: r => if c = cr then r else c :: r

/-- The lines of a text, given the line held so far in reverse. -/
def splitFrom (lf cr : α) (held : List α) : List α → List (List α)
  | [] => if held.isEmpty then [] else [held.reverse]
  | c :: rest =>
    if c = lf then (dropReturn cr held).reverse :: splitFrom lf cr [] rest
    else splitFrom lf cr (c :: held) rest

def split (lf cr : α) (text : List α) : List (List α) := splitFrom lf cr [] text

theorem split_nil (lf cr : α) : split lf cr [] = [] := rfl

/-- A text that ends a line splits there, whatever follows. -/
theorem splitFrom_append (lf cr : α) (held p q : List α) :
    splitFrom lf cr held (p ++ lf :: q) = splitFrom lf cr held (p ++ [lf]) ++ split lf cr q := by
  induction p generalizing held with
  | nil => simp [splitFrom, split]
  | cons c p ih =>
    by_cases h : c = lf
    · simp only [List.cons_append, splitFrom, if_pos h]
      rw [ih []]
    · simp only [List.cons_append, splitFrom, if_neg h]
      rw [ih (c :: held)]

end BuildFleet.Lines

namespace BuildFleet.Text

def lines (s : String) : List String :=
  (Lines.split '\n' '\r' s.toList).map String.ofList

end BuildFleet.Text
