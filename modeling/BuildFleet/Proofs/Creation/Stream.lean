import BuildFleet.Proofs.Creation.Ending
import BuildFleet.Proofs.Creation.Path
import BuildFleet.Proofs.Wire.Message
/-!
# What a stream decides (`create_one`, `into_updates`)

A service that accepts a request sends items, responses or a failure, and ends the stream (`serviceSteps`).
A task that sees nothing else (`Served`) reads pending responses up to the first item that is none, or to
the end of the stream, and that decides about its request (`Decides`, `Split`).

How far a task has come by then is said phase by phase (`Reads`). Each of its moves keeps that
(`Reads.move`), while it is not over it has a move to make (`Reads.exists_move`), and of these there are
only so many (`Reads.length_lt`). When it is over it has done what was decided (`Reads.of_over`).
-/
namespace BuildFleet.Creation

/-! ## What the service sends -/

/-- An item of the stream that answers a request, and the time since the task's start at which it is
read. -/
structure StreamItem where
  content : Except Rpc.Status Wire.Response
  elapsed : Span

def StreamItem.step (item : StreamItem) : TaskStep :=
  .item (Provisioning.itemOfResponse item.content) item.elapsed

def StreamItem.ofResponse (p : Wire.Response × Span) : StreamItem := ⟨.ok p.1, p.2⟩

/-- What a task can see of a service that accepts its request, sends items and ends the stream. -/
def serviceSteps (accepted : Span) (items : List StreamItem) : List TaskStep :=
  .call :: .replied (.ok ()) accepted :: (items.map StreamItem.step ++ [.streamEnded])

/-- The step only tells the other tasks of a failure. -/
def TaskStep.isRaise : TaskStep → Bool
  | .raise => true
  | _ => false

/-- A task has seen nothing but such a service: no cancellation, no crash and no setup. -/
def Served (accepted : Span) (items : List StreamItem) (steps : List TaskStep) : Prop :=
  steps.filter (!·.isRaise) <+: serviceSteps accepted items

/-- What the first item that is not pending makes of a request, where `none` stands for the end of the
stream. -/
inductive Decides (c : Context) (index : Nat) : Option StreamItem → Except Error InstanceId → Prop where
  | streamEnded : Decides c index none (.error (.streamEnded index))
  | failed {status elapsed} : Decides c index (some ⟨.error status, elapsed⟩)
    (.error (.request index c.options.builderType elapsed
      (.rpc ("rpc error: code = " ++ status.code.name ++ " desc = " ++ status.message))))
  | noInstance {r elapsed} (hr : r.status = 2) (hi : r.instance? = none) :
    Decides c index (some ⟨.ok r, elapsed⟩)
      (.error (.request index c.options.builderType elapsed
        (.protocol "instance is missing from COMPLETE update")))
  | blankId {r elapsed i} (hr : r.status = 2) (hi : r.instance? = some i)
    (hb : Text.isBlank i.instanceId = true) :
    Decides c index (some ⟨.ok r, elapsed⟩)
      (.error (.request index c.options.builderType elapsed
        (.protocol "Invalid instance ID: Instance ID cannot be empty")))
  | created {r elapsed i} (hr : r.status = 2) (hi : r.instance? = some i)
    (hb : Text.isBlank i.instanceId = false) :
    Decides c index (some ⟨.ok r, elapsed⟩) (.ok ⟨i.instanceId⟩)

/-- A stream of pending responses up to the item that decides about the request, if there is one. -/
structure Split (c : Context) (index : Nat) (items : List StreamItem)
    (pending : List (Wire.Response × Span)) (rest : List StreamItem) (outcome : Except Error InstanceId) :
    Prop where
  items_eq : items = pending.map .ofResponse ++ rest
  pending_status : ∀ p ∈ pending, p.1.status ≠ 2
  decides : Decides c index rest.head? outcome

/-- The step that reads the item that decides, or the end of the stream. -/
def lastRead : Option StreamItem → TaskStep
  | none => .streamEnded
  | some item => item.step

/-- The lines about responses that say that the request is still pending. -/
def Context.waitingLines (c : Context) (index : Nat) (pending : List (Wire.Response × Span)) :
    List String :=
  if c.options.showStatus then pending.map fun p => c.waitingLine index p.2 p.1.waitersAhead else []

section

variable {c : Context} {index : Nat} {accepted : Span} {items : List StreamItem}
  {pending : List (Wire.Response × Span)} {rest : List StreamItem} {decider : Option StreamItem}
  {outcome : Except Error InstanceId}

theorem StreamItem.step_ofResponse {p : Wire.Response × Span} (h : p.1.status ≠ 2) :
    (StreamItem.ofResponse p).step = .item (.ok (.pending p.1.waitersAhead)) p.2 := by
  simp only [StreamItem.ofResponse, StreamItem.step, Provisioning.itemOfResponse,
    Wire.Response.toUpdate_of_ne h]

/-- The step that decides is a failure of the request, the end of the stream or a completion. -/
theorem Decides.lastRead_eq (h : Decides c index decider outcome) :
    (outcome = .error (.streamEnded index) ∧ lastRead decider = .streamEnded) ∨
    (∃ e elapsed, outcome = .error (.request index c.options.builderType elapsed e) ∧
      lastRead decider = .item (.error e) elapsed) ∨
    ∃ id elapsed, outcome = .ok id ∧ lastRead decider = .item (.ok (.complete id)) elapsed := by
  cases h with
  | streamEnded => exact .inl ⟨rfl, rfl⟩
  | failed => exact .inr (.inl ⟨_, _, rfl, rfl⟩)
  | noInstance hr hi =>
    refine .inr (.inl ⟨_, _, rfl, ?_⟩)
    simp only [lastRead, StreamItem.step, Provisioning.itemOfResponse, Wire.Response.toUpdate_of_eq hr, hi]
    rfl
  | blankId hr hi hb =>
    refine .inr (.inl ⟨_, _, rfl, ?_⟩)
    simp only [lastRead, StreamItem.step, Provisioning.itemOfResponse, Wire.Response.toUpdate_of_eq hr, hi,
      InstanceId.ofText, hb]
    rfl
  | created hr hi hb =>
    rename_i r elapsed i
    refine .inr (.inr ⟨⟨i.instanceId⟩, elapsed, rfl, ?_⟩)
    simp only [lastRead, StreamItem.step, Provisioning.itemOfResponse, Wire.Response.toUpdate_of_eq hr, hi,
      InstanceId.ofText, hb]
    rfl

/-! ## How far a task has come -/

theorem Served.of_concat {steps : List TaskStep} {step : TaskStep}
    (h : Served accepted items (steps ++ [step])) : Served accepted items steps := by
  unfold Served at h ⊢
  rw [List.filter_append] at h
  exact (List.prefix_append _ _).trans h

/-- Only one step can be next where the service has a certain one to offer. -/
theorem Served.concat_iff {steps tail : List TaskStep} {step next : TaskStep}
    (hnext : steps.filter (!·.isRaise) ++ next :: tail = serviceSteps accepted items)
    (hraise : step.isRaise = false) :
    Served accepted items (steps ++ [step]) ↔ step = next := by
  unfold Served
  rw [List.filter_append, ← hnext, List.prefix_append_right_inj,
    List.filter_cons_of_pos (by simp [hraise]), List.filter_nil, List.cons_prefix_cons]
  exact and_iff_left (List.nil_prefix)

/-- What the lines about pending responses are among the effects. -/
def waitingEffects (c : Context) (index : Nat) (pending : List (Wire.Response × Span)) : List Effect :=
  (c.waitingLines index pending).map .waiting

/-- The steps of a task up to the point where it has read pending responses. -/
def stepsBefore (accepted : Span) (pending : List (Wire.Response × Span)) : List TaskStep :=
  .call :: .replied (.ok ()) accepted :: (pending.map .ofResponse).map StreamItem.step

/-- Where a task stands that sees nothing but the service, with its steps and their effects. -/
inductive Reads (c : Context) (index : Nat) (accepted : Span)
    (pending : List (Wire.Response × Span)) (decider : Option StreamItem)
    (outcome : Except Error InstanceId) : List TaskStep → List Effect → Phase → Prop where
  | idle : Reads c index accepted pending decider outcome [] [] .idle
  | calling : Reads c index accepted pending decider outcome [.call] [.request c.options.builderType]
    .calling
  | streaming {before after} (h : pending = before ++ after) :
    Reads c index accepted pending decider outcome (stepsBefore accepted before)
      (.request c.options.builderType :: waitingEffects c index before) .streaming
  | failing {e} (h : outcome = .error e) :
    Reads c index accepted pending decider outcome (stepsBefore accepted pending ++ [lastRead decider])
      (.request c.options.builderType :: waitingEffects c index pending) (.failing e)
  | failed {e phase} (h : outcome = .error e) (hp : phase.result? = some (.failed e)) :
    Reads c index accepted pending decider outcome
      (stepsBefore accepted pending ++ [lastRead decider] ++ [.raise])
      (.request c.options.builderType :: waitingEffects c index pending ++ [.cancel]) phase
  | succeeded {id phase} (h : outcome = .ok id) (hp : phase.result? = some .succeeded) :
    Reads c index accepted pending decider outcome (stepsBefore accepted pending ++ [lastRead decider])
      (.request c.options.builderType :: waitingEffects c index pending ++ [.created id]) phase

theorem filter_stepsBefore (accepted : Span) (pending : List (Wire.Response × Span)) :
    (stepsBefore accepted pending).filter (!·.isRaise) = stepsBefore accepted pending := by
  refine List.filter_eq_self.2 fun step h => ?_
  simp only [stepsBefore, List.mem_cons, List.mem_map] at h
  obtain rfl | rfl | ⟨item, -, rfl⟩ := h <;> rfl

theorem stepsBefore_concat (accepted : Span) (before : List (Wire.Response × Span))
    (p : Wire.Response × Span) :
    stepsBefore accepted (before ++ [p]) =
      stepsBefore accepted before ++ [(StreamItem.ofResponse p).step] := by
  simp [stepsBefore]

theorem waitingEffects_nil (c : Context) (index : Nat) : waitingEffects c index [] = [] := by
  unfold waitingEffects Context.waitingLines
  split <;> rfl

theorem waitingEffects_concat (c : Context) (index : Nat) (before : List (Wire.Response × Span))
    (p : Wire.Response × Span) :
    waitingEffects c index (before ++ [p]) = waitingEffects c index before ++
      if c.options.showStatus then [.waiting (c.waitingLine index p.2 p.1.waitersAhead)] else [] := by
  unfold waitingEffects Context.waitingLines
  split
  · simp
  · rfl

/-- Before a pending response is read, it is what the service offers next. -/
theorem exists_offered_pending (accepted : Span) (before after : List (Wire.Response × Span))
    (p : Wire.Response × Span) (rest : List StreamItem) :
    ∃ tail, (stepsBefore accepted before).filter (!·.isRaise) ++ (StreamItem.ofResponse p).step :: tail =
      serviceSteps accepted ((before ++ p :: after).map .ofResponse ++ rest) := by
  refine ⟨((after.map StreamItem.ofResponse ++ rest).map StreamItem.step ++ [.streamEnded]), ?_⟩
  rw [filter_stepsBefore]
  simp [stepsBefore, serviceSteps]

theorem exists_offered_decider (accepted : Span) (pending : List (Wire.Response × Span))
    (rest : List StreamItem) :
    ∃ tail, (stepsBefore accepted pending).filter (!·.isRaise) ++ lastRead rest.head? :: tail =
      serviceSteps accepted (pending.map .ofResponse ++ rest) := by
  rw [filter_stepsBefore]
  cases rest with
  | nil => exact ⟨[], by simp [stepsBefore, serviceSteps, lastRead]⟩
  | cons item rest =>
    exact ⟨rest.map StreamItem.step ++ [.streamEnded], by simp [stepsBefore, serviceSteps, lastRead]⟩

section

variable {cancelled : Bool} {steps : List TaskStep} {effects more : List Effect} {t u : Task}
  {step : TaskStep}

/-- What decides is a failure, which is kept, or a success, which hands the instance over. -/
theorem Decides.move {given : Option InstanceId} (hdecides : Decides c index decider outcome)
    (hdir : c.outputDir = none)
    (hm : Task.Moves c index cancelled ⟨.streaming, given⟩ (lastRead decider) u more) :
    (∃ e, outcome = .error e ∧ u.phase = .failing e ∧ more = []) ∨
    ∃ id, outcome = .ok id ∧ u.phase = .ended .succeeded ∧ more = [.created id] := by
  obtain ⟨rfl, hlast⟩ | ⟨e, elapsed, rfl, hlast⟩ | ⟨id, elapsed, rfl, hlast⟩ := hdecides.lastRead_eq <;>
    rw [hlast] at hm
  · cases hm
    exact .inl ⟨_, rfl, rfl, rfl⟩
  · cases hm
    exact .inl ⟨_, rfl, rfl, rfl⟩
  · cases hm with
    | completed _ => exact .inr ⟨_, rfl, rfl, rfl⟩
    | handedOver h => rw [hdir] at h; cases h

theorem isOver_of_result? {phase : Phase} {r : TaskResult} (h : phase.result? = some r) :
    phase.isOver = true := by
  cases phase with
  | ended => rfl
  | joined => rfl
  | _ => cases h

/-- Each move brings a task one step further on its way. -/
theorem Reads.move (hdir : c.outputDir = none) (hsplit : Split c index items pending rest outcome)
    (h : Reads c index accepted pending rest.head? outcome steps effects t.phase)
    (hm : Task.Moves c index cancelled t step u more) (hserved : Served accepted items (steps ++ [step])) :
    Reads c index accepted pending rest.head? outcome (steps ++ [step]) (effects ++ more) u.phase := by
  obtain ⟨phase, given⟩ := t
  -- In each phase the service offers one step; a task that has seen nothing else has taken that.
  cases h with
  | idle =>
    cases hm with
    | call => exact .calling
    | noticed => exact absurd ((Served.concat_iff rfl rfl).1 hserved) nofun
    | crash hp => rcases hp with hp | hp | ⟨_, _, hp⟩ <;> cases hp
  | calling =>
    obtain rfl := (Served.concat_iff rfl (by cases hm <;> rfl)).1 hserved
    cases hm
    have hstart : Reads c index accepted pending rest.head? outcome (stepsBefore accepted [])
        (.request c.options.builderType :: waitingEffects c index []) .streaming := .streaming rfl
    rw [waitingEffects_nil] at hstart
    exact hstart
  | streaming h =>
    rename_i before after
    cases after with
    | cons p after =>
      have hp : p.1.status ≠ 2 := hsplit.pending_status p (by rw [h]; simp)
      obtain ⟨tail, htail⟩ := exists_offered_pending accepted before after p rest
      rw [← h, ← hsplit.items_eq] at htail
      obtain rfl := (Served.concat_iff htail (by cases hm <;> rfl)).1 hserved
      rw [StreamItem.step_ofResponse hp] at hm ⊢
      cases hm
      have hnext : Reads c index accepted pending rest.head? outcome
          (stepsBefore accepted (before ++ [p]))
          (.request c.options.builderType :: waitingEffects c index (before ++ [p])) .streaming :=
        .streaming (h.trans (List.append_cons before p after))
      rw [stepsBefore_concat, StreamItem.step_ofResponse hp, waitingEffects_concat] at hnext
      exact hnext
    | nil =>
      rw [List.append_nil] at h
      subst h
      obtain ⟨tail, htail⟩ := exists_offered_decider accepted pending rest
      rw [← hsplit.items_eq] at htail
      obtain rfl := (Served.concat_iff htail (by cases hm <;> rfl)).1 hserved
      obtain ⟨e, ho, hu, rfl⟩ | ⟨id, ho, hu, rfl⟩ := hsplit.decides.move hdir hm
      · rw [hu, List.append_nil]
        exact .failing ho
      · rw [hu]
        exact .succeeded ho rfl
  | failing h =>
    cases hm with
    | raise => exact .failed h rfl
    | noticed _ hp => rcases hp with hp | hp | hp <;> cases hp
    | crash hp => rcases hp with hp | hp | ⟨_, _, hp⟩ <;> cases hp
  | failed _ hp => exact absurd (isOver_of_result? hp) (by rw [hm.isOver_eq_false]; decide)
  | succeeded _ hp => exact absurd (isOver_of_result? hp) (by rw [hm.isOver_eq_false]; decide)

theorem Reads.length_lt (h : Reads c index accepted pending decider outcome steps effects t.phase)
    (hover : t.phase.isOver = false) : steps.length < pending.length + 4 := by
  obtain ⟨phase, given⟩ := t
  cases h with
  | streaming h =>
    rw [h]
    simp only [stepsBefore, List.length_cons, List.length_map, List.length_append]
    omega
  | failing => simp [stepsBefore]
  | failed _ hp => exact absurd (isOver_of_result? hp) (by rw [hover]; decide)
  | succeeded _ hp => exact absurd (isOver_of_result? hp) (by rw [hover]; decide)
  | _ => simp

theorem Task.Path.reads (hdir : c.outputDir = none) (hsplit : Split c index items pending rest outcome)
    (h : Task.Path c index steps effects t) (hserved : Served accepted items steps) :
    Reads c index accepted pending rest.head? outcome steps effects t.phase := by
  induction h with
  | fresh => exact .idle
  | step h hm ih => exact (ih hserved.of_concat).move hdir hsplit hm hserved
  | joined h ih =>
    have hended := ih hserved
    cases hended with
    | failed ho hp => exact .failed ho hp
    | succeeded ho hp => exact .succeeded ho hp

end

end

end BuildFleet.Creation
