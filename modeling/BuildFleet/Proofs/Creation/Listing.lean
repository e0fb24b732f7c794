import BuildFleet.Proofs.Creation.Recording
import BuildFleet.Proofs.Text.Lines
/-!
# Reading the listing back (`record_instances`, `stdout_lines`)

The recorder prints each id and a line feed behind it. The lines of the output are the recorded ids exactly
if none of these has a line feed in it or ends in a carriage return (`listing_reads_back_iff`). Ids are not
checked for that: one with a line feed is listed as two (`brokenId_listed_as_two`), and one that ends in a
carriage return is listed without it (`returnedId_listed_short`).
-/
namespace BuildFleet.Creation.State

variable {c : Context} {group : Option Group} {actions : List Action} {s : State}

/-- **The listing can be read back** (`record_instances`, `stdout_lines`) as long as ids keep to one
line. In every state of a creation the lines of the output are the recorded ids, in the order in
which they were recorded, exactly if no recorded id has a line feed in it or ends in a carriage
return. -/
theorem listing_reads_back_iff (h : (initial c group .working).run c actions = some s) :
    s.console.out.lines = s.recorded.map InstanceId.text ↔
      ∀ id ∈ s.recorded, '\n' ∉ id.text.toList ∧ id.text.toList.getLast? ≠ some '\r' := by
  have htext : s.console.out.text =
      String.join ((s.recorded.map InstanceId.text).map (· ++ "\n")) := by
    rw [out_text h, List.map_map]
    rfl
  rw [Sink.lines, htext, Text.lines_join_eq_iff, List.forall_mem_map]

/-- A creation of one instance, without setup, whose task is given the id. -/
def givenId (id : InstanceId) : List Action :=
  [.task 0 .call, .task 0 (.replied (.ok ()) .zero), .task 0 (.item (.ok (.complete id)) .zero),
    .record, .join 0, .drain, .finish]

def oneInstance : Context := ⟨{ builderType := "linux" }, none⟩

/-- Blanks at either end, and a carriage return that ends nothing, belong to the id. -/
theorem inner_return_read_back :
    ∃ s, (initial oneInstance none .working).run oneInstance (givenId ⟨" a\rb "⟩) = some s ∧
      s.closing = .returned (.ok ⟨[⟨" a\rb "⟩], none⟩) ∧ s.console.out.lines = [" a\rb "] := by
  have key : ∀ s, (initial oneInstance none .working).run oneInstance (givenId ⟨" a\rb "⟩) = some s →
      s.recorded = [⟨" a\rb "⟩] → s.console.out.lines = [" a\rb "] := by
    intro s h hrecorded
    have hlines := (listing_reads_back_iff h).2
    rw [hrecorded] at hlines
    exact hlines (by decide)
  exact ⟨_, rfl, rfl, key _ rfl rfl⟩

/-- An id with a line feed is accepted, and listed as two. -/
theorem brokenId_listed_as_two :
    InstanceId.ofText "a\nb" = .ok ⟨"a\nb"⟩ ∧
    ∃ s, (initial oneInstance none .working).run oneInstance (givenId ⟨"a\nb"⟩) = some s ∧
      s.closing = .returned (.ok ⟨[⟨"a\nb"⟩], none⟩) ∧ s.console.out.lines = ["a", "b"] :=
  ⟨by decide +kernel, _, rfl, rfl, by decide +kernel⟩

/-- An id that ends in a carriage return is accepted, and listed without it. -/
theorem returnedId_listed_short :
    InstanceId.ofText "a\r" = .ok ⟨"a\r"⟩ ∧
    ∃ s, (initial oneInstance none .working).run oneInstance (givenId ⟨"a\r"⟩) = some s ∧
      s.closing = .returned (.ok ⟨[⟨"a\r"⟩], none⟩) ∧ s.console.out.lines = ["a"] :=
  ⟨by decide +kernel, _, rfl, rfl, by decide +kernel⟩

end BuildFleet.Creation.State
