/-!
# Elapsed time (`format_elapsed`)

A span of time as people read it: hours, minutes and seconds, rounded to the nearest second with
half a second going up. Leading fields that would be zero are left out.
-/
namespace BuildFleet

structure Span where
  seconds : UInt64
  nanos : Nat
  nanos_lt : nanos < 1000000000 := by omega
  deriving DecidableEq

namespace Span

def zero : Span := ⟨0, 0, by omega⟩

def ofMillis (ms : Nat) : Span :=
  ⟨UInt64.ofNat (ms / 1000), ms % 1000 * 1000000, by omega⟩

def millis (t : Span) : Nat := t.nanos / 1000000

/-- The span in whole seconds; half a second goes up. -/
def rounded (t : Span) : UInt64 := if 500 ≤ t.millis then t.seconds + 1 else t.seconds

/-- A count of seconds in hours, minutes and seconds. -/
def renderSeconds (n : Nat) : String :=
  let h := n / 3600
  let m := n % 3600 / 60
  let s := n % 60
  if 0 < h then toString h ++ "h" ++ toString m ++ "m" ++ toString s ++ "s"
  else if 0 < m then toString m ++ "m" ++ toString s ++ "s"
  else toString s ++ "s"

/-- The span as text, such as `42s`, `3m7s` or `1h0m5s` (`format_elapsed`). -/
def render (t : Span) : String := renderSeconds t.rounded.toNat

end Span

end BuildFleet
