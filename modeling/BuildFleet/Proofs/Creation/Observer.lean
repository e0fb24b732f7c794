import BuildFleet.Proofs.Creation.Unobserved
import BuildFleet.Proofs.Text.Lines
/-!
# The console only observes (`Console`)

Two creations that are asked for the same, and to which the same happens in the same order, do the same
whatever they show and however their writers fare. A remark about the queue is told by how it begins
(`Event.Fits.isStillCreating_eq`), and where the builder type takes one line every remark does. So the
remarks about the queue can be struck out of the text that one run leaves on its console, and what
remains is the text that a run without them leaves.
-/
namespace BuildFleet.Creation

/-! ## Lines -/

/-- The line is a remark about the queue. -/
def isStillCreating (line : String) : Bool := "# still creating".toList.isPrefixOf line.toList

/-- The line stays a line among others. -/
structure TakesOneLine (line : String) : Prop where
  unbroken : '\n' ∉ line.toList
  noReturn : line.toList.getLast? ≠ some '\r'

theorem takesOneLine_append {start last : String} (hstart : '\n' ∉ start.toList)
    (hlast : '\n' ∉ last.toList) {c : Char} (hc : last.toList.getLast? = some c) (hcr : c ≠ '\r') :
    TakesOneLine (start ++ last) where
  unbroken := by
    rw [String.toList_append, List.mem_append, not_or]
    exact ⟨hstart, hlast⟩
  noReturn := by
    rw [String.toList_append, List.getLast?_append, hc]
    simpa using hcr

section
variable (c : Context) (index : Nat) (elapsed : Span) (ahead : Int64)

theorem isStillCreating_waitingLine : isStillCreating (c.waitingLine index elapsed ahead) = true := by
  unfold isStillCreating Context.waitingLine
  simp only [String.toList_append]
  rfl

theorem takesOneLine_waitingLine (h : '\n' ∉ c.options.builderType.toList) :
    TakesOneLine (c.waitingLine index elapsed ahead) := by
  refine takesOneLine_append ?_ (by decide) (by decide) (by decide : 'u' ≠ '\r')
  simp only [String.toList_append, List.mem_append, not_or]
  exact ⟨⟨⟨⟨⟨⟨⟨by decide, h⟩, by decide⟩, Text.lineFeed_not_mem_toString index⟩, by decide⟩,
    Text.lineFeed_not_mem_render elapsed⟩, by decide⟩,
    Text.lineFeed_not_mem_toString_int ahead.toInt⟩

end

section
variable (job : Setup.Job) (root : String) (phase : Setup.Phase)

theorem isStillCreating_notice : isStillCreating (job.notice root phase) = false := by
  unfold isStillCreating Setup.Job.notice
  cases phase <;> simp only [String.toList_append] <;> rfl

theorem takesOneLine_notice : TakesOneLine (job.notice root phase) := by
  cases phase <;>
    refine takesOneLine_append ?_ (by decide) (by decide) (by decide : '.' ≠ '\r') <;>
    simp only [String.toList_append, List.mem_append, not_or] <;>
    exact ⟨⟨⟨by decide, Text.lineFeed_not_mem_quoted _⟩, by decide⟩, Text.lineFeed_not_mem_quoted _⟩

end

/-! ## Events -/

/-- The line of an event is worded as what has happened is: a remark about the queue, where these are
shown, or the notice of a setup. -/
def Event.Fits (c : Context) : Event → Prop
  | .waiting index line =>
    c.options.showStatus = true ∧ ∃ elapsed ahead, line = c.waitingLine index elapsed ahead
  | .notice _ phase line => ∃ (job : Setup.Job) (root : String), line = job.notice root phase
  | _ => True

namespace Event.Fits

variable {c : Context} {event : Event}

theorem isStillCreating_eq (h : event.Fits c) {line : String} (hl : event.remark? = some line) :
    (!isStillCreating line) = event.isDeed := by
  cases event with
  | waiting index line =>
    obtain ⟨-, elapsed, ahead, rfl⟩ := h
    obtain rfl := Option.some.inj hl
    rw [isStillCreating_waitingLine]
    rfl
  | notice index phase line =>
    obtain ⟨job, root, rfl⟩ := h
    obtain rfl := Option.some.inj hl
    rw [isStillCreating_notice]
    rfl
  | _ => cases hl

theorem takesOneLine (h : event.Fits c) (hb : '\n' ∉ c.options.builderType.toList) {line : String}
    (hl : event.remark? = some line) : TakesOneLine line := by
  cases event with
  | waiting index line =>
    obtain ⟨-, elapsed, ahead, rfl⟩ := h
    obtain rfl := Option.some.inj hl
    exact takesOneLine_waitingLine c index elapsed ahead hb
  | notice index phase line =>
    obtain ⟨job, root, rfl⟩ := h
    obtain rfl := Option.some.inj hl
    exact takesOneLine_notice job root phase
  | _ => cases hl

theorem isDeed (h : event.Fits c) (hquiet : c.options.showStatus = false) : event.isDeed = true := by
  cases event with
  | waiting index line =>
    have hshown : c.options.showStatus = true := h.1
    rw [hquiet] at hshown
    cases hshown
  | _ => rfl

end Event.Fits

theorem Task.Moves.fits {c : Context} {index : Nat} {cancelled : Bool} {t u : Task}
    {step : TaskStep} {effects : List Effect} (h : Task.Moves c index cancelled t step u effects) :
    ∀ e ∈ effects, ∀ event, e.event? index = some event → event.Fits c := by
  intro e he event hevent
  cases h with
  | pending =>
    split at he
    · obtain rfl := List.mem_singleton.1 he
      obtain rfl := Option.some.inj hevent
      exact ⟨‹_›, _, _, rfl⟩
    · cases he
  | announced =>
    split at he
    · cases he
    · obtain rfl := List.mem_singleton.1 he
      obtain rfl := Option.some.inj hevent
      exact ⟨_, _, rfl⟩
  | call | started | completed | handedOver =>
    obtain rfl := List.mem_singleton.1 he
    obtain rfl := Option.some.inj hevent
    trivial
  | raise =>
    obtain rfl := List.mem_singleton.1 he
    cases hevent
  | _ => cases he

namespace State

variable {c : Context} {group : Option Group} {console : Console} {actions : List Action}
  {s : State}

theorem fits_of_run (h : (State.initial c group console).run c actions = some s) :
    ∀ event ∈ s.events, event.Fits c := by
  refine run_history (P := fun _ s => ∀ event ∈ s.events, event.Fits c) ?_ ?_ h
  · intro event hevent
    cases hevent
  intro actions s a u _ hs hm
  cases hm with
  | task ht hm =>
    intro event hevent
    rw [after_events, List.mem_append, List.mem_filterMap] at hevent
    rcases hevent with hbefore | ⟨e, he, hnew⟩
    · exact hs event hbefore
    · exact hm.fits e he event hnew
  | record | store =>
    intro event hevent
    rcases List.mem_append.1 hevent with hbefore | hnew
    · exact hs event hbefore
    · obtain rfl := List.mem_singleton.1 hnew
      trivial
  | _ => exact hs

theorem remarks_deeds (h : (State.initial c group console).run c actions = some s) :
    (s.events.filter Event.isDeed).filterMap Event.remark? =
      (s.events.filterMap Event.remark?).filter (!isStillCreating ·) :=
  (filter_filterMap_eq fun event he _ hl => (fits_of_run h event he).isStillCreating_eq hl).symm

/-- Without remarks about the queue all that happens is done. -/
theorem filter_isDeed_events (h : (State.initial c group console).run c actions = some s)
    (hquiet : c.options.showStatus = false) : s.events.filter Event.isDeed = s.events := by
  rw [List.filter_eq_self]
  exact fun event he => (fits_of_run h event he).isDeed hquiet

theorem err_lines (h : (State.initial c group .working).run c actions = some s)
    (hb : '\n' ∉ c.options.builderType.toList) :
    s.console.err.lines = s.events.filterMap Event.remark? := by
  have hone : ∀ line ∈ s.events.filterMap Event.remark?, TakesOneLine line := by
    intro line hline
    obtain ⟨event, he, hl⟩ := List.mem_filterMap.1 hline
    exact (fits_of_run h event he).takesOneLine hb hl
  rw [err_of_working h, Sink.lines]
  exact Text.lines_join (fun line hl => (hone line hl).unbroken) fun line hl => (hone line hl).noReturn

theorem prepare_showStatus (o : Options) (makeDir : Except IoError String) (shown : Bool) :
    prepare { o with showStatus := shown } makeDir = (prepare o makeDir).map (·.showing shown) := by
  unfold prepare
  dsimp only
  split
  · rfl
  split
  · rfl
  split
  · cases makeDir <;> rfl
  · rfl

/-- **The console only observes** (`Console`). Two creations that are asked for the same and to
which the same happens in the same order, with remarks about the queue or without them, however
their writers fare and whatever times they take: either both are refused alike, or at any time both
have done the same, times apart. That is, they have made the same requests and calls, recorded the
same instances, stored the same groups and come to the same result. Where the writers work the
output is the same, and a creation without remarks about the queue writes what the other writes but
for these. Where the builder type takes one line every remark is a line, and these are the lines it
does without. -/
theorem console_only_observes (o : Options) (makeDir : Except IoError String)
    (group : Option Group) (shown : Bool) :
    (∀ e, prepare { o with showStatus := shown } makeDir = .error e ↔
      prepare o makeDir = .error e) ∧
    ∀ c s actions actions' console console', prepare o makeDir = .ok c →
      (State.initial c group console).run c actions = some s →
      actions.map Action.untimed = actions'.map Action.untimed →
      ∃ c' s', prepare { o with showStatus := shown } makeDir = .ok c' ∧
        (State.initial c' group console').run c' actions' = some s' ∧
        s'.events.filter Event.isDeed = s.events.filter Event.isDeed ∧
        s'.recorded = s.recorded ∧ s'.group = s.group ∧
        s'.closing.untimed = s.closing.untimed ∧
        (console = .working → console' = .working →
          s'.console.out = s.console.out ∧
          (shown = false →
            s.console.err.text =
              String.join ((s.events.filterMap Event.remark?).map (· ++ "\n")) ∧
            s'.console.err.text = String.join
              (((s.events.filterMap Event.remark?).filter (!isStillCreating ·)).map (· ++ "\n")) ∧
            ('\n' ∉ o.builderType.toList →
              s'.console.err.lines = s.console.err.lines.filter (!isStillCreating ·)))) := by
  refine ⟨fun e => ?_, ?_⟩
  · rw [prepare_showStatus]
    cases prepare o makeDir <;> simp [Except.map]
  intro c s actions actions' console console' hp h ha
  have hp' : prepare { o with showStatus := shown } makeDir = .ok (c.showing shown) := by
    rw [prepare_showStatus, hp]
    rfl
  have hstart : (State.initial c group console).Alike
      (State.initial (c.showing shown) group console') := rfl
  -- Both are compared with the one creation that shows nothing.
  have hcontext : c.showing false = (c.showing shown).showing false := rfl
  obtain ⟨s', h', halike⟩ := run_alike hcontext hstart ha h
  obtain ⟨-, -, hrecorded, hgroup, -, -, -, hclosing, -, hevents⟩ := State.mk.inj halike
  refine ⟨_, s', hp', h', hevents.symm, hrecorded.symm, hgroup.symm, hclosing.symm, ?_⟩
  rintro rfl rfl
  refine ⟨by rw [out_eq h, out_eq h', hrecorded], ?_⟩
  rintro rfl
  have hremarks : s'.events.filterMap Event.remark? =
      (s.events.filterMap Event.remark?).filter (!isStillCreating ·) := by
    rw [← remarks_deeds h, hevents, filter_isDeed_events h' rfl]
  refine ⟨by rw [err_of_working h], by rw [err_of_working h', hremarks], ?_⟩
  intro hb
  obtain ⟨rfl, -⟩ := context_of_prepare hp
  rw [err_lines h hb, err_lines h' hb, hremarks]

/-- The steps of `bothSucceed`, with answers that take a while. -/
def bothSucceedLater : List Action :=
  bothSucceed.map fun
    | .task i (.replied result _) => .task i (.replied result (.ofMillis 1500))
    | .task i (.item update _) => .task i (.item update (.ofMillis 62000))
    | a => a

def brokenPipes : Console := ⟨⟨"", [.cut 0]⟩, ⟨"", [.written, .cut 3]⟩⟩

theorem bothSucceedLater_observed :
    ∃ c s c' broken quiet, prepare twoSetUp (.ok "/out") = .ok c ∧
      (State.initial c (some ⟨"fleet", ["c"]⟩) .working).run c bothSucceed = some s ∧
      prepare { twoSetUp with showStatus := false } (.ok "/out") = .ok c' ∧
      (State.initial c' (some ⟨"fleet", ["c"]⟩) brokenPipes).run c' bothSucceedLater = some broken ∧
      broken.events.filter Event.isDeed = s.events.filter Event.isDeed ∧
      broken.recorded = [⟨"b"⟩, ⟨"a"⟩] ∧
      (State.initial c' (some ⟨"fleet", ["c"]⟩) .working).run c' bothSucceedLater = some quiet ∧
      quiet.console.out = s.console.out ∧
      quiet.console.err.lines = s.console.err.lines.filter (!isStillCreating ·) := by
  obtain ⟨c, s, hp, h, hrecorded⟩ : ∃ c s, prepare twoSetUp (.ok "/out") = .ok c ∧
      (State.initial c (some ⟨"fleet", ["c"]⟩) .working).run c bothSucceed = some s ∧
      s.recorded = [⟨"b"⟩, ⟨"a"⟩] := ⟨_, _, rfl, rfl, rfl⟩
  have hsteps : bothSucceed.map Action.untimed = bothSucceedLater.map Action.untimed := by
    simp [bothSucceedLater, bothSucceed, Action.untimed, TaskStep.untimed]
  have hobserves :=
    (console_only_observes twoSetUp (.ok "/out") (some ⟨"fleet", ["c"]⟩) false).2 c s bothSucceed
      bothSucceedLater .working
  obtain ⟨c', broken, hp', hbroken, hevents, hsame, -⟩ := hobserves brokenPipes hp h hsteps
  obtain ⟨_, quiet, hp'', hquiet, -, -, -, -, hshown⟩ := hobserves .working hp h hsteps
  obtain rfl := Except.ok.inj (hp'.symm.trans hp'')
  obtain ⟨hout, herr⟩ := hshown rfl rfl
  have hlines := (herr rfl).2.2 (by decide)
  exact ⟨c, s, c', broken, quiet, hp, h, hp', hbroken, hevents, hsame.trans hrecorded, hquiet, hout,
    hlines⟩

end State

end BuildFleet.Creation
