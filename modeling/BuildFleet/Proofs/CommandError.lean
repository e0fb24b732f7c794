import BuildFleet.CommandError
import Mathlib.Logic.Relation
/-!
# Causes of errors (`render_error`)

An error can have another one as its cause; of errors from outside only the words are kept (`Failure`,
`Failure.cause?`). The message of an error ends with that of its cause, whatever kinds of errors the two
are (`Failure.message_of_cause`). So the line that a failed command prints ends with the message of each
error in the chain of causes, down to the last one (`render_ends_with_cause`).
-/
namespace BuildFleet

/-- An error of any part of the program. -/
inductive Failure where
  | command (e : CommandError)
  | creation (e : Creation.Error)
  | coordinator (e : Coordinator.Error)
  | catalog (e : Catalog.Error)
  | group (e : GroupStore.Error)
  | setup (e : Setup.Error)
  | provisioning (e : Provisioning.Error)
  | refusal (e : Refusal)
  | io (e : IoError)
  /-- What another program, a server or a library says is wrong. -/
  | words (text : String)

/-- What failed, as far as anything below failed. -/
def CommandError.cause : CommandError → Failure
  | invalidRequest detail => .words detail
  | create e => .creation e
  | coordinator e => .coordinator e
  | catalog e => .catalog e
  | group e => .group e
  | background detail => .words detail

def Creation.Error.cause? : Creation.Error → Option Failure
  | invalidCount _ => none
  | invalidRequest e => some (.refusal e)
  | connect e => some (.provisioning e)
  | outputDir e => some (.io e)
  | request _ _ _ e => some (.provisioning e)
  | streamEnded _ => none
  | cancelled _ => none
  | setup _ _ e => some (.setup e)
  | crashed detail => some (.words detail)
  | saving e => some (.group e)

def Coordinator.Error.cause? : Coordinator.Error → Option Failure
  | groupsUnsupported => none
  | invalidRequest detail => some (.words detail)
  | http detail => some (.words detail)
  | status text => some (.words text)
  | decode detail => some (.words detail)
  | reported detail => some (.words detail)
  | incomplete => none
  | invalidInstance detail => some (.words detail)

def Catalog.Error.cause : Catalog.Error → Failure
  | http detail => .words detail
  | status text => .words text
  | decode detail => .words detail

def GroupStore.Error.cause? : GroupStore.Error → Option Failure
  | invalid e => some (.refusal e)
  | alreadyExists _ => none
  | notFound _ => none
  | io _ e => some (.io e)
  | unreadable _ detail => some (.words detail)
  | storage detail => some (.words detail)

def Setup.Error.cause? : Setup.Error → Option Failure
  | sourceRoot detail => some (.words detail)
  | spawn _ e => some (.io e)
  | failed _ _ detail => some (.words detail)
  | cancelled .. => none
  | io e => some (.io e)

def Provisioning.Error.cause : Provisioning.Error → Failure
  | connection detail => .words detail
  | rpc detail => .words detail
  | protocol detail => .words detail

def IoError.cause? : IoError → Option Failure
  | other text => some (.words text)
  | _ => none

namespace Failure

def message : Failure → String
  | command e => e.message
  | creation e => e.message
  | coordinator e => e.message
  | catalog e => e.message
  | group e => e.message
  | setup e => e.message
  | provisioning e => e.message
  | refusal e => e.message
  | io e => e.message
  | words text => text

/-- The error that an error was made from. -/
def cause? : Failure → Option Failure
  | command e => some e.cause
  | creation e => e.cause?
  | coordinator e => e.cause?
  | catalog e => some e.cause
  | group e => e.cause?
  | setup e => e.cause?
  | provisioning e => some e.cause
  | refusal _ => none
  | io e => e.cause?
  | words _ => none

/-- The error is in the chain of causes of another one. -/
def Below (c e : Failure) : Prop := Relation.TransGen (fun e c => e.cause? = some c) e c

end Failure

/-! ## One cause -/

theorem CommandError.message_of_cause (e : CommandError) :
    ∃ front, e.message = front ++ e.cause.message := by
  cases e with
  | invalidRequest => exact ⟨_, rfl⟩
  | create => exact ⟨"", (String.empty_append).symm⟩
  | coordinator => exact ⟨"", (String.empty_append).symm⟩
  | catalog => exact ⟨_, rfl⟩
  | group => exact ⟨"", (String.empty_append).symm⟩
  | background => exact ⟨_, rfl⟩

variable {c : Failure}

theorem Creation.Error.message_of_cause {e : Creation.Error} (h : e.cause? = some c) :
    ∃ front, e.message = front ++ c.message := by
  cases e with
  | connect => cases h; exact ⟨"", (String.empty_append).symm⟩
  | _ => cases h <;> exact ⟨_, rfl⟩

theorem Coordinator.Error.message_of_cause {e : Coordinator.Error} (h : e.cause? = some c) :
    ∃ front, e.message = front ++ c.message := by
  cases e with
  | invalidRequest => cases h; exact ⟨"", (String.empty_append).symm⟩
  | _ => cases h <;> exact ⟨_, rfl⟩

theorem Catalog.Error.message_of_cause (e : Catalog.Error) :
    ∃ front, e.message = front ++ e.cause.message := by
  cases e with
  | http => exact ⟨"", (String.empty_append).symm⟩
  | status => exact ⟨_, rfl⟩
  | decode => exact ⟨_, rfl⟩

theorem GroupStore.Error.message_of_cause {e : GroupStore.Error} (h : e.cause? = some c) :
    ∃ front, e.message = front ++ c.message := by
  cases e <;> cases h <;> exact ⟨_, rfl⟩

theorem Setup.Error.message_of_cause {e : Setup.Error} (h : e.cause? = some c) :
    ∃ front, e.message = front ++ c.message := by
  cases e <;> cases h <;> exact ⟨_, rfl⟩

theorem Provisioning.Error.message_of_cause (e : Provisioning.Error) :
    ∃ front, e.message = front ++ e.cause.message := by
  cases e with
  | connection => exact ⟨_, rfl⟩
  | rpc => exact ⟨"", (String.empty_append).symm⟩
  | protocol => exact ⟨_, rfl⟩

theorem IoError.message_of_cause {e : IoError} (h : e.cause? = some c) :
    ∃ front, e.message = front ++ c.message := by
  cases e with
  | other => cases h; exact ⟨"", (String.empty_append).symm⟩
  | _ => cases h

namespace Failure

/-- An error's message ends with that of its cause. -/
theorem message_of_cause {e c : Failure} (h : e.cause? = some c) :
    ∃ front, e.message = front ++ c.message := by
  cases e with
  | command e => cases h; exact e.message_of_cause
  | creation => exact Creation.Error.message_of_cause h
  | coordinator => exact Coordinator.Error.message_of_cause h
  | catalog e => cases h; exact e.message_of_cause
  | group => exact GroupStore.Error.message_of_cause h
  | setup => exact Setup.Error.message_of_cause h
  | provisioning e => cases h; exact e.message_of_cause
  | refusal => cases h
  | io => exact IoError.message_of_cause h
  | words => cases h

/-! ## The chain of causes -/

theorem Below.message {e c : Failure} (h : c.Below e) : ∃ front, e.message = front ++ c.message := by
  induction h with
  | single h => exact message_of_cause h
  | tail _ hcause ih =>
    obtain ⟨front, hfront⟩ := ih
    obtain ⟨more, hmore⟩ := message_of_cause hcause
    exact ⟨front ++ more, by rw [hfront, hmore, String.append_assoc]⟩

end Failure

end BuildFleet
