import BuildFleet.Http
import BuildFleet.Json.Decode
import BuildFleet.Text.Blank
import BuildFleet.Text.Lines
/-!
# The coordinator's event stream (`read_create_events`)

The coordinator answers with one JSON event a line. Status events say how long the queue is; the
first line that holds an error or a buildlet, or that cannot be read, ends the stream. What a line
means depends on that line alone (`Event.ofLine`), and the stream is read line by line
(`readLines`).
-/
namespace BuildFleet.Coordinator

/-- Why no instance was created through the coordinator. -/
inductive Error where
  | groupsUnsupported
  | invalidRequest (detail : String)
  | http (detail : String)
  /-- The coordinator answered with a status that is no success. -/
  | status (text : String)
  | decode (detail : String)
  /-- The coordinator reported an error of its own. -/
  | reported (detail : String)
  | incomplete
  | invalidInstance (detail : String)
  deriving DecidableEq, Repr

def Error.message : Error → String
  | groupsUnsupported => "command does not support groups"
  | invalidRequest detail => detail
  | http detail => "failed to create buildlet: " ++ detail
  | status text => "failed to create buildlet: unexpected response status: " ++ text
  | decode detail => "failed to create buildlet: decoding coordinator response: " ++ detail
  | reported detail => "failed to create buildlet: " ++ detail
  | incomplete =>
    "failed to create buildlet: coordinator closed the response without a buildlet"
  | invalidInstance detail => "failed to create buildlet: " ++ detail

/-- Where a request stands in the queue (`WaitStatus`). -/
structure WaitStatus where
  ahead : Int64
  message : String
  deriving DecidableEq, Repr

namespace WaitStatus

structure Draft where
  ahead : Option Int64 := none
  message : Option String := none

def record : Json.Record Draft WaitStatus where
  name := "WaitStatus"
  members := [
    .ofField "ahead" false Json.signed64 Draft.ahead fun x d => { d with ahead := some x },
    .ofField "message" false Json.text Draft.message fun x d => { d with message := some x }]
  blank := {}
  build d := ⟨d.ahead.getD 0, d.message.getD ""⟩

end WaitStatus

/-- The part of an event that names the buildlet. -/
def buildletRecord : Json.Record (Option String) String where
  name := "BuildletName"
  members := [.ofField "name" true Json.text id fun x _ => some x]
  blank := none
  build d := d.getD ""

structure EventLine where
  error : Option String
  status : Option WaitStatus
  buildlet : Option String
  deriving DecidableEq, Repr

namespace EventLine

structure Draft where
  error : Option (Option String) := none
  status : Option (Option WaitStatus) := none
  buildlet : Option (Option String) := none

def record : Json.Record Draft EventLine where
  name := "CreateEvent"
  members := [
    .ofField "error" false (Json.nullable Json.text) Draft.error fun x d =>
      { d with error := some x },
    .ofField "status" false (Json.nullable WaitStatus.record.read) Draft.status fun x d =>
      { d with status := some x },
    .ofField "buildlet" false (Json.nullable buildletRecord.read) Draft.buildlet fun x d =>
      { d with buildlet := some x }]
  blank := {}
  build d := ⟨d.error.getD none, d.status.getD none, d.buildlet.getD none⟩

end EventLine

/-- What a line means to the reader of the stream. -/
inductive Event where
  | nothing
  | waiting (status : WaitStatus)
  | finished (result : Except Error String)

namespace Event

/-- What a `CreateEvent` means: an error that is not empty comes before a buildlet, and a buildlet
before a status. -/
def ofEventLine (line : EventLine) : Event :=
  match line.error.filter (· ≠ ""), line.buildlet, line.status with
  | some error, _, _ => .finished (.error (.reported error))
  | none, some name, _ => .finished (.ok name)
  | none, none, some status => .waiting status
  | none, none, none => .nothing

/-- What the bytes of a line mean. A line must be text; a blank one says nothing. -/
def ofLine (line : List UInt8) : Event :=
  match Utf8.decode? line with
  | none => .finished (.error (.http "stream did not contain valid UTF-8"))
  | some s =>
    if Text.isBlank s then .nothing
    else match Json.decode EventLine.record.read line with
      | .error fault => .finished (.error (.decode (fault.message line)))
      | .ok line => ofEventLine line

end Event

/-- The statuses of a stream in order, and how it ends; `atEnd` is the result of a stream whose
lines do not end it. -/
def readLines (atEnd : Error) : List (List UInt8) → List WaitStatus × Except Error String
  | [] => ([], .error atEnd)
  | line :: rest =>
    match Event.ofLine line with
    | .nothing => readLines atEnd rest
    | .waiting status =>
      let (statuses, result) := readLines atEnd rest
      (status :: statuses, result)
    | .finished result => ([], result)

def linesOf (body : List UInt8) : List (List UInt8) := Lines.split 10 13 body

/-- Reads a whole stream (`read_create_events`). -/
def readEvents (body : List UInt8) : List WaitStatus × Except Error String :=
  readLines .incomplete (linesOf body)

/-- The lines of a stream that broke off: what follows the last line feed is lost. -/
def wholeLines (body : List UInt8) : List (List UInt8) :=
  linesOf (body.reverse.dropWhile (· ≠ 10)).reverse

def readAnswer : Http.Answer → List WaitStatus × Except Error String
  | .failed cause => ([], .error (.http cause))
  | .response status body brokenOff =>
    if !Http.isSuccess status then ([], .error (.status (Http.statusText status)))
    else match brokenOff with
      | none => readEvents body
      | some cause => readLines (.http cause) (wholeLines body)

end BuildFleet.Coordinator
