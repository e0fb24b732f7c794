import BuildFleet.Console
/-!
# Lines on a stream

Lines that are written to a stream on which all goes well stand on it one under the other.
-/
namespace BuildFleet

theorem Sink.foldl_line (text : String) (lines : List String) :
    lines.foldl Sink.line ⟨text, []⟩ = ⟨text ++ String.join (lines.map (· ++ "\n")), []⟩ := by
  induction lines generalizing text with
  | nil => simp
  | cons l lines ih =>
    rw [List.foldl_cons, Sink.line, ih, List.map_cons, String.join_cons]
    simp [String.append_assoc]

theorem Sink.foldl_line_working (lines : List String) :
    lines.foldl Sink.line .working = ⟨String.join (lines.map (· ++ "\n")), []⟩ := by
  rw [Sink.working, foldl_line, String.empty_append]

theorem Console.foldl_status (c : Console) (lines : List String) :
    lines.foldl Console.status c = { c with err := lines.foldl Sink.line c.err } := by
  induction lines generalizing c with
  | nil => rfl
  | cons l lines ih => rw [List.foldl_cons, ih]; rfl

end BuildFleet
