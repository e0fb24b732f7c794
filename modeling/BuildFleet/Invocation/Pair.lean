import BuildFleet.Invocation.Stage
/-!
# Two invocations side by side

Two invocations that share the group files. At each step either of them moves.
-/
namespace BuildFleet.Invocation

inductive Side where
  | first
  | second
  deriving DecidableEq, Repr

/-- The stages of two invocations, and their files. -/
structure Pair where
  first : Stage
  second : Stage
  files : FileSystem

namespace Pair

def start (v w : Invocation) (files : FileSystem) : Pair := ⟨v.start, w.start, files⟩

/-- The pair after one of the two has moved; `none` where it cannot. -/
def step (v w : Invocation) (p : Pair) (a : Action) : Side → Option Pair
  | .first => (v.step p.files p.first a).map fun (stage, files) => ⟨stage, p.second, files⟩
  | .second => (w.step p.files p.second a).map fun (stage, files) => ⟨p.first, stage, files⟩

def run (v w : Invocation) (p : Pair) : List (Side × Action) → Option Pair
  | [] => some p
  | (side, a) :: moves => (p.step v w a side).bind fun p => run v w p moves

end Pair

end BuildFleet.Invocation
