import BuildFleet.Coordinator.Create
import BuildFleet.Proofs.Console
import BuildFleet.Proofs.Coordinator.Events
/-!
# One instance by the coordinator (`LegacyCreateController`)

A response is told by its lines: the first that ends it (`endsStream`) and the statuses in front of that
(`statusesOf`). This is said of the lines' own contents, without the reader, and `readLines_spec` says
that the reader follows it. From there on a creation is short: what it asks, what it returns and what is
on the two streams of the console is all in `prints_what_was_created`.
-/
namespace BuildFleet.Coordinator

/-! ## Lines and what they hold -/

/-- The event of a line holds no error but perhaps an empty one. -/
def EventLine.hasNoError (event : EventLine) : Bool := event.error.getD "" = ""

/-- A line ends the stream when it is not text, when it is neither blank nor an event, or when its event
holds an error or a buildlet. -/
def endsStream (line : List UInt8) : Bool :=
  match Utf8.decode? line with
  | none => true
  | some s => !Text.isBlank s && match Json.decode EventLine.record.read line with
    | .error _ => true
    | .ok event => !event.hasNoError || event.buildlet.isSome

/-- The status that a line holds, if it is an event that holds one. -/
def statusOf? (line : List UInt8) : Option WaitStatus :=
  match Json.decode EventLine.record.read line with
  | .error _ => none
  | .ok event => event.status

/-- The statuses in front of the first line that ends the stream. -/
def statusesOf (lines : List (List UInt8)) : List WaitStatus :=
  (lines.takeWhile (!endsStream ·)).filterMap statusOf?

/-- A line names a buildlet when it is text, and an event without an error that holds the name. -/
def NamesBuildlet (line : List UInt8) (name : String) : Prop :=
  (∃ s, Utf8.decode? line = some s) ∧ ∃ event, Json.decode EventLine.record.read line = .ok event ∧
    event.hasNoError = true ∧ event.buildlet = some name

section
variable {line : List UInt8}

theorem ofEventLine_of_hasNoError {event : EventLine} (h : event.hasNoError = true) :
    Event.ofEventLine event = match event.buildlet, event.status with
      | some name, _ => .finished (.ok name)
      | none, some status => .waiting status
      | none, none => .nothing := by
  obtain ⟨error, status, buildlet⟩ := event
  have hnone : error.filter (· ≠ "") = none := by
    cases error with
    | none => rfl
    | some e => simpa [EventLine.hasNoError, Option.filter] using h
  simp only [Event.ofEventLine, hnone]
  cases buildlet <;> cases status <;> rfl

theorem ofLine_of_not_endsStream (h : endsStream line = false) :
    Event.ofLine line = match statusOf? line with
      | some status => .waiting status
      | none => .nothing := by
  unfold endsStream at h
  unfold Event.ofLine statusOf?
  cases hs : Utf8.decode? line with
  | none => simp [hs] at h
  | some s =>
    simp only [hs] at h
    cases hevent : Json.decode EventLine.record.read line with
    | error fault =>
      have hblank : Text.isBlank s = true := by simpa [hevent] using h
      simp [hblank]
    | ok event =>
      have hblank : Text.isBlank s = false :=
        Bool.eq_false_iff.2 fun hblank => decode_of_isBlank hs hblank event hevent
      obtain ⟨hno, hbuildlet⟩ : event.hasNoError = true ∧ event.buildlet = none := by
        simpa [hevent, hblank] using h
      simp only [hblank, ofEventLine_of_hasNoError hno, hbuildlet]
      cases event.status <;> rfl

/-- A line that ends the stream does so with the buildlet that it names, or else with an error. -/
theorem ofLine_of_endsStream (h : endsStream line = true) :
    ∃ result, Event.ofLine line = .finished result ∧
      ∀ name, result = .ok name ↔ NamesBuildlet line name := by
  unfold endsStream at h
  unfold Event.ofLine NamesBuildlet
  cases hs : Utf8.decode? line with
  | none => exact ⟨_, rfl, by simp⟩
  | some s =>
    simp only [hs, Bool.and_eq_true, Bool.not_eq_true'] at h
    obtain ⟨hblank, h⟩ := h
    cases hevent : Json.decode EventLine.record.read line with
    | error fault => exact ⟨.error (.decode (fault.message line)), by simp [hblank], by simp⟩
    | ok event =>
      simp only [hevent, Bool.or_eq_true, Bool.not_eq_true'] at h
      simp only [hblank, Bool.false_eq_true, if_false]
      cases hno : event.hasNoError with
      | true =>
        obtain ⟨name, hname⟩ : ∃ name, event.buildlet = some name := by
          simpa [hno, Option.isSome_iff_exists] using h
        refine ⟨.ok name, by rw [ofEventLine_of_hasNoError hno, hname], ?_⟩
        simp [hno, hname]
      | false =>
        obtain ⟨error, herror, hne⟩ : ∃ error, event.error = some error ∧ error ≠ "" := by
          unfold EventLine.hasNoError at hno
          cases herror : event.error with
          | none => simp [herror] at hno
          | some error => exact ⟨error, rfl, by simpa [herror] using hno⟩
        refine ⟨.error (.reported error), ?_, by simp [hno]⟩
        simp [Event.ofEventLine, herror, Option.filter, hne]

end

/-! ## Streams -/

/-- **The reader reports the statuses in front of the first line that ends the stream**, and that line
decides how it ends: with the buildlet that it names, or else with an error. -/
theorem readLines_spec (atEnd : Error) (lines : List (List UInt8)) :
    (readLines atEnd lines).1 = statusesOf lines ∧
      ∀ name, (readLines atEnd lines).2 = .ok name ↔
        ∃ line, lines.find? endsStream = some line ∧ NamesBuildlet line name := by
  induction lines with
  | nil => simp [readLines, statusesOf]
  | cons line lines ih =>
    obtain ⟨hstatuses, hresult⟩ := ih
    unfold readLines
    cases hends : endsStream line with
    | true =>
      obtain ⟨result, hline, hname⟩ := ofLine_of_endsStream hends
      simp [hline, statusesOf, hends, hname]
    | false =>
      have hfind : (line :: lines).find? endsStream = lines.find? endsStream := by simp [hends]
      rw [ofLine_of_not_endsStream hends, hfind]
      cases hstatus : statusOf? line with
      | none =>
        refine ⟨?_, hresult⟩
        simpa [statusesOf, hends, hstatus] using hstatuses
      | some status =>
        refine ⟨?_, hresult⟩
        simpa [statusesOf, hends, hstatus] using hstatuses

/-- The lines of a response; of one that broke off, those that came whole. -/
def receivedLines (body : List UInt8) : Option String → List (List UInt8)
  | none => linesOf body
  | some _ => wholeLines body

/-- A response that says success is read line by line, whether it is complete or broke off. -/
theorem readAnswer_of_isSuccess {code : Nat} (h : Http.isSuccess code = true) (body : List UInt8)
    (brokenOff : Option String) :
    ∃ atEnd, readAnswer (.response code body brokenOff) =
      readLines atEnd (receivedLines body brokenOff) := by
  cases brokenOff with
  | none => exact ⟨.incomplete, by simp [readAnswer, h, readEvents, receivedLines]⟩
  | some cause => exact ⟨.http cause, by simp [readAnswer, h, receivedLines]⟩

/-! ## Creations -/

theorem named_eq_ok_iff {name : String} {id : InstanceId} :
    named name = .ok id ↔ name = id.text ∧ Text.isBlank id.text = false := by
  unfold named
  cases hid : InstanceId.ofText name with
  | ok id' =>
    obtain ⟨hblank, rfl⟩ := InstanceId.ofText_eq_ok_iff.1 hid
    constructor
    · intro h
      cases h
      exact ⟨rfl, hblank⟩
    · rintro ⟨rfl, -⟩
      rfl
  | error refusal =>
    constructor
    · exact nofun
    · rintro ⟨rfl, hblank⟩
      rw [InstanceId.ofText_eq_ok_iff.2 ⟨hblank, rfl⟩] at hid
      cases hid

theorem bind_named_eq_ok_iff {answer : Except Error String} {id : InstanceId} :
    answer.bind named = .ok id ↔ answer = .ok id.text ∧ Text.isBlank id.text = false := by
  cases answer with
  | error e => exact ⟨nofun, fun h => nomatch h.1⟩
  | ok name =>
    show named name = .ok id ↔ _
    rw [named_eq_ok_iff, Except.ok.injEq]

section
variable {server : Server} {elapsed : Nat → Span} {activeGroup : Option String} {builderType : String}
  {showStatus : Bool} {console : Console}

/-- A request is made when no group is active and the builder type is not blank. -/
def Asks (activeGroup : Option String) (builderType : String) : Prop :=
  activeGroup = none ∧ Text.isBlank builderType = false

/-- Without a request nothing is created and nothing written. -/
theorem create_of_not_asks (h : ¬Asks activeGroup builderType) :
    ∃ e, create server elapsed activeGroup builderType showStatus console =
      ⟨.returned (.error e), console, []⟩ := by
  cases activeGroup with
  | some group => exact ⟨_, rfl⟩
  | none =>
    have hblank : Text.isBlank builderType = true := by simpa [Asks] using h
    refine ⟨.invalidRequest Refusal.blankBuilderType.message, ?_⟩
    simp [create, createOne, CreationRequest.ofBuilderType, hblank]

def entries (elapsed : Nat → Span) (builderType : String) (showStatus : Bool)
    (statuses : List WaitStatus) : List String :=
  if showStatus then statuses.mapIdx fun i s => statusLine builderType (elapsed i) s else []

/-- A request is made for the builder type as it stands. The statuses are told as they come, and the id
is printed after them. -/
theorem create_of_asks (h : Asks activeGroup builderType) {statuses : List WaitStatus}
    {answer : Except Error String} (hserver : server builderType = (statuses, .returned answer)) :
    create server elapsed activeGroup builderType showStatus console =
      let told := (entries elapsed builderType showStatus statuses).foldl Console.status console
      ⟨.returned (answer.bind named), match answer.bind named with
        | .ok id => told.print id.text
        | .error _ => told, [builderType]⟩ := by
  obtain ⟨rfl, hblank⟩ := h
  have hrequest : CreationRequest.ofBuilderType builderType = .ok ⟨builderType⟩ := by
    simp [CreationRequest.ofBuilderType, hblank]
  have hone : createOne server elapsed builderType showStatus console =
      ⟨.returned (answer.bind named),
        (entries elapsed builderType showStatus statuses).foldl Console.status console,
        [builderType]⟩ := by
    simp only [createOne, hrequest, hserver]
    cases answer <;> cases showStatus <;> rfl
  simp only [create, Option.isSome_none, Bool.false_eq_true, if_false, hone]
  cases answer.bind named <;> rfl

/-- After a request the id is on one stream, if there is one, and the entries are on the other. -/
theorem console_of_asks (h : Asks activeGroup builderType) {statuses : List WaitStatus}
    {answer : Except Error String} (hserver : server builderType = (statuses, .returned answer))
    (elapsed : Nat → Span) (showStatus : Bool) :
    let run := create server elapsed activeGroup builderType showStatus .working
    (∀ id, answer.bind named = .ok id → run.console.out.text = id.text ++ "\n") ∧
      (∀ e, answer.bind named = .error e → run.console.out.text = "") ∧
      run.console.err.text =
        String.join ((entries elapsed builderType showStatus statuses).map (· ++ "\n")) := by
  intro run
  have hrun : run = _ := create_of_asks h hserver
  rw [hrun]
  refine ⟨fun id hid => ?_, fun e he => ?_, ?_⟩
  · simp only [hid, Console.foldl_status, Console.print, Console.working, Sink.line, Sink.working]
    rfl
  · simp only [he, Console.foldl_status]
    rfl
  · dsimp only
    split <;> simp only [Console.print, Console.foldl_status, Console.working,
      Sink.foldl_line_working]

/-- The entries stand one under the other: the coordinator's own words if there are any, else the place
in the queue. -/
theorem join_entries (elapsed : Nat → Span) (builderType : String) (statuses : List WaitStatus) :
    String.join ((entries elapsed builderType true statuses).map (· ++ "\n")) =
      String.join (statuses.mapIdx fun i status =>
        (if status.message ≠ "" then "# " ++ status.message
          else "# still creating " ++ builderType ++ " after " ++ (elapsed i).render ++ "; " ++
            toString status.ahead.toInt ++ " requests ahead of you") ++ "\n") := by
  refine congrArg String.join (List.ext_getElem? fun i => ?_)
  simp [entries, statusLine, List.getElem?_mapIdx, Function.comp_def]

end

/-- **An id is printed exactly when an instance was created** (`LegacyCreateController`). Of a
coordinator that answers with success, whatever follows, nothing is asked if a group is active or
the builder type is blank, and else once, for the type as it stands. The id is returned exactly when
the first line that ends the response names a buildlet with a name that is not blank, which is the
id; it is the output then, and else there is none. With the status shown, the statuses in front of
that line are the remarks, one entry for each in order: the coordinator's own words if there are
any, else the place in the queue. -/
theorem prints_what_was_created {answer : String → Http.Answer} {builderType : String} {code : Nat}
    {body : List UInt8} {brokenOff : Option String}
    (hanswer : answer builderType = .response code body brokenOff)
    (hcode : Http.isSuccess code = true) (elapsed : Nat → Span) (activeGroup : Option String)
    (showStatus : Bool) :
    let run := create (.ofHttp answer) elapsed activeGroup builderType showStatus .working
    let lines := receivedLines body brokenOff
    (¬Asks activeGroup builderType → run.requests = []) ∧
    (Asks activeGroup builderType → run.requests = [builderType]) ∧
    (∃ result, run.result = .returned result ∧
      (∀ id, result = .ok id ↔ Asks activeGroup builderType ∧ Text.isBlank id.text = false ∧
        ∃ line, lines.find? endsStream = some line ∧ NamesBuildlet line id.text) ∧
      (∀ id, result = .ok id → run.console.out.text = id.text ++ "\n") ∧
      (∀ e, result = .error e → run.console.out.text = "")) ∧
    (¬Asks activeGroup builderType ∨ showStatus = false → run.console.err.text = "") ∧
    (Asks activeGroup builderType → showStatus = true →
      run.console.err.text = String.join ((statusesOf lines).mapIdx fun i status =>
        (if status.message ≠ "" then "# " ++ status.message
          else "# still creating " ++ builderType ++ " after " ++ (elapsed i).render ++ "; " ++
            toString status.ahead.toInt ++ " requests ahead of you") ++ "\n")) := by
  intro run lines
  by_cases hasks : Asks activeGroup builderType
  · obtain ⟨atEnd, hread⟩ := readAnswer_of_isSuccess hcode body brokenOff
    -- From here on the reader is not needed: what it finds is told by the lines themselves.
    obtain ⟨hstatuses, hname⟩ := readLines_spec atEnd lines
    have hserver : Server.ofHttp answer builderType =
        (statusesOf lines, .returned (readLines atEnd lines).2) := by
      simp only [Server.ofHttp, hanswer, hread]
      rw [← hstatuses]
    obtain ⟨hout, hnone, herr⟩ := console_of_asks hasks hserver elapsed showStatus
    have hrun : run = _ := create_of_asks hasks hserver
    have hreturned : run.result = .returned ((readLines atEnd lines).2.bind named) := by rw [hrun]
    have hrequests : run.requests = [builderType] := by rw [hrun]
    refine ⟨fun h => absurd hasks h, fun _ => hrequests,
      ⟨_, hreturned, fun id => ?_, hout, hnone⟩, ?_, fun _ hshow => ?_⟩
    · rw [bind_named_eq_ok_iff, hname]
      constructor
      · rintro ⟨hline, hblank⟩
        exact ⟨hasks, hblank, hline⟩
      · rintro ⟨-, hblank, hline⟩
        exact ⟨hline, hblank⟩
    · rintro (h | rfl)
      · exact absurd hasks h
      · exact herr
    · subst hshow
      rw [← join_entries]
      exact herr
  · obtain ⟨e, hrun⟩ : ∃ e, run = ⟨.returned (.error e), .working, []⟩ := create_of_not_asks hasks
    rw [hrun]
    refine ⟨fun _ => rfl, fun h => absurd h hasks, ⟨_, rfl, fun id => ?_, fun id hid => ?_,
      fun _ _ => rfl⟩, fun _ => rfl, fun h => absurd h hasks⟩
    · simp [hasks]
    · cases hid

/-- A place in the queue, the coordinator's own words, and a buildlet. -/
def queueThenWords : List UInt8 := Utf8.encode
  ("\x7b\"status\":\x7b\"ahead\":3\x7d\x7d\n" ++ "\x7b\"status\":\x7b\"message\":\"up\"\x7d\x7d\n" ++
    "\x7b\"buildlet\":\x7b\"name\":\"b\"\x7d\x7d\n")

theorem queueThenWords_printed :
    Http.isSuccess 200 = true ∧
    let run := create (.ofHttp fun _ => .response 200 queueThenWords none) (fun _ => .zero) none
      "linux" true .working
    run.requests = ["linux"] ∧ run.result = .returned (.ok ⟨"b"⟩) ∧
      run.console.out.text = "b\n" ∧
      run.console.err.text =
        "# still creating linux after 0s; 3 requests ahead of you\n# up\n" := by
  have hasks : Asks none "linux" := ⟨rfl, by decide⟩
  let answer : String → Http.Answer := fun _ => .response 200 queueThenWords none
  have hanswer : answer "linux" = .response 200 queueThenWords none := rfl
  have hstatuses : statusesOf (linesOf queueThenWords) = [⟨3, ""⟩, ⟨0, "up"⟩] := by rfl
  have hnames : ∃ line, (linesOf queueThenWords).find? endsStream = some line ∧
      NamesBuildlet line "b" :=
    ⟨Utf8.encode "\x7b\"buildlet\":\x7b\"name\":\"b\"\x7d\x7d", by rfl,
      ⟨_, Utf8.decode?_encode _⟩, ⟨none, none, some "b"⟩, by rfl, rfl, rfl⟩
  obtain ⟨-, hrequests, ⟨result, hreturned, hok, hout, -⟩, -, herr⟩ :=
    prints_what_was_created hanswer (by decide) (fun _ => .zero) none true
  have hresult : result = .ok ⟨"b"⟩ := (hok ⟨"b"⟩).2 ⟨hasks, by decide, hnames⟩
  refine ⟨by decide, hrequests hasks, hresult ▸ hreturned, hout _ hresult, ?_⟩
  rw [herr hasks rfl, receivedLines, hstatuses]
  rfl

end BuildFleet.Coordinator
