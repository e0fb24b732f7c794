import BuildFleet.Proofs.Console
import BuildFleet.Proofs.Creation.History
import Mathlib.Data.List.Basic
/-!
# What is on the console

Every line on the console comes from something that has happened: a remark about the queue or a notice
about a setup on one stream, a recorded instance on the other. So both streams can be told from the
events and the recorder's list, for any writers (`State.err_eq`, `State.out_eq`); with writers that work
they hold these lines and nothing else (`Sink.foldl_line_working`).
-/
namespace BuildFleet

namespace Creation

/-- What is chosen among the results can be chosen before. -/
theorem filter_filterMap_eq {α β : Type} {f : α → Option β} {p : α → Bool} {q : β → Bool}
    {l : List α} (h : ∀ a ∈ l, ∀ b, f a = some b → q b = p a) :
    (l.filterMap f).filter q = (l.filter p).filterMap f := by
  rw [List.filter_filterMap, List.filterMap_filter]
  refine List.filterMap_congr fun a ha => ?_
  cases hb : f a with
  | none => simp
  | some b => simp [Option.filter, h a ha b hb]

/-- The line that an event writes among the remarks. -/
def Event.remark? : Event → Option String
  | .waiting _ line => some line
  | .notice _ _ line => some line
  | _ => none

theorem bind_remark?_event? (index : Nat) (e : Effect) :
    (e.event? index).bind Event.remark? = e.remark? := by
  rcases e with _ | _ | _ | (_ | _) | _ <;> rfl

theorem remarks_effects (index : Nat) (effects : List Effect) :
    (effects.filterMap (Effect.event? index)).filterMap Event.remark? =
      effects.filterMap Effect.remark? := by
  rw [List.filterMap_filterMap]
  exact List.filterMap_congr fun e _ => bind_remark?_event? index e

namespace State

variable {c : Context} {group : Option Group} {console : Console} {actions : List Action}
  {s : State}

theorem after_err (s : State) (i : Nat) (t : Task) (es : List Effect) :
    (s.after i t es).console.err =
      (es.filterMap Effect.remark?).foldl Sink.line s.console.err := by
  rw [after_eq]
  show ((es.filterMap Effect.remark?).foldl Console.status s.console).err = _
  generalize s.console = console
  induction es.filterMap Effect.remark? generalizing console with
  | nil => rfl
  | cons line lines ih => exact ih (console.status line)

/-- The remarks are those of the events, in order. -/
theorem err_eq (h : (State.initial c group console).run c actions = some s) :
    s.console.err = (s.events.filterMap Event.remark?).foldl Sink.line console.err := by
  refine run_history (P := fun _ s =>
    s.console.err = (s.events.filterMap Event.remark?).foldl Sink.line console.err) rfl ?_ h
  intro actions s a u _ hs hm
  cases hm with
  | task =>
    rw [after_err, after_events, List.filterMap_append, List.foldl_append, remarks_effects, ← hs]
  | record =>
    rw [List.filterMap_append, List.foldl_append]
    exact hs
  | store =>
    rw [List.filterMap_append, List.foldl_append]
    exact hs
  | _ => exact hs

theorem err_of_working (h : (State.initial c group .working).run c actions = some s) :
    s.console.err = ⟨String.join ((s.events.filterMap Event.remark?).map (· ++ "\n")), []⟩ := by
  rw [err_eq h]
  exact Sink.foldl_line_working _

/-- The output is the recorder's list. -/
theorem out_eq (h : (State.initial c group console).run c actions = some s) :
    s.console.out = (s.recorded.map InstanceId.text).foldl Sink.line console.out := by
  refine run_history (P := fun _ s =>
    s.console.out = (s.recorded.map InstanceId.text).foldl Sink.line console.out) rfl ?_ h
  intro actions s a u _ hs hm
  cases hm with
  | task => rw [after_out, after_recorded, hs]
  | record =>
    rw [List.map_append, List.foldl_append, ← hs]
    rfl
  | _ => exact hs

end State

end Creation

end BuildFleet
