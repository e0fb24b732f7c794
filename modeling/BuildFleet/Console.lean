import BuildFleet.Text.Lines
/-!
# The console (`Console`)

Two streams of lines: instance ids go out on one, and remarks about progress on the other. Writing
can fail at any line; the failure is noted nowhere and the next line is tried all the same.
-/
namespace BuildFleet

/-- How the writing of a line goes. -/
inductive Fate where
  | written
  /-- Only so many characters get through. -/
  | cut (length : Nat)
  deriving DecidableEq, Repr

/-- A stream of lines: what has come through, and how the next lines will go. Lines beyond those are
written. -/
structure Sink where
  text : String
  coming : List Fate
  deriving DecidableEq, Repr

namespace Sink

def working : Sink := ⟨"", []⟩

def line (s : Sink) (l : String) : Sink :=
  match s.coming with
  | [] => ⟨s.text ++ l ++ "\n", []⟩
  | .written :: rest => ⟨s.text ++ l ++ "\n", rest⟩
  | .cut length :: rest => ⟨s.text ++ String.ofList ((l ++ "\n").toList.take length), rest⟩

/-- The lines that have come through (`stdout_lines`, `stderr_lines`). -/
def lines (s : Sink) : List String := Text.lines s.text

end Sink

structure Console where
  out : Sink
  err : Sink
  deriving DecidableEq, Repr

namespace Console

def working : Console := ⟨.working, .working⟩

/-- Writes a line of output (`println`). -/
def print (c : Console) (l : String) : Console := { c with out := c.out.line l }

/-- Writes a remark about progress (`status`). -/
def status (c : Console) (l : String) : Console := { c with err := c.err.line l }

end Console

end BuildFleet
