import BuildFleet.Console
import BuildFleet.Coordinator.Events
import BuildFleet.CreationRequest
import BuildFleet.Elapsed
/-!
# Creating through the coordinator (`LegacyCreateService`)

One instance is asked for with one request. The coordinator knows nothing of groups, so an active
group rules the request out, as does a blank builder type; after either check has failed nothing is
sent. The id is printed when there is one.
-/
namespace BuildFleet.Coordinator

/-- How a piece of work on a thread of its own ends. -/
inductive Ending (α : Type) where
  | returned (result : Except Error α)
  /-- The thread did not survive. -/
  | crashed

/-- What becomes of a request for a builder type: the statuses that are reported for it and how it
ends. -/
abbrev Server := String → List WaitStatus × Ending String

/-- A server that answers each request over HTTP. -/
def Server.ofHttp (answer : String → Http.Answer) : Server := fun builderType =>
  let (statuses, result) := readAnswer (answer builderType)
  (statuses, .returned result)

/-- The address that requests are sent to (`create_url`). -/
def createUrl (baseUrl : String) : String :=
  String.ofList (baseUrl.toList.reverse.dropWhile (· = '/')).reverse ++ "/buildlet/create"

/-- The remark about a status. The coordinator's own words are passed on if it has any. -/
def statusLine (builderType : String) (elapsed : Span) (s : WaitStatus) : String :=
  if s.message ≠ "" then "# " ++ s.message
  else "# still creating " ++ builderType ++ " after " ++ elapsed.render ++ "; " ++
    toString s.ahead.toInt ++ " requests ahead of you"

structure Run where
  result : Ending InstanceId
  console : Console
  requests : List String

/-- The id that a buildlet's name is. -/
def named (name : String) : Except Error InstanceId :=
  match InstanceId.ofText name with
  | .ok id => .ok id
  | .error refusal => .error (.invalidInstance refusal.message)

/-- Asks the coordinator for one instance (`LegacyCreateService`); `elapsed` says when each status
arrives. -/
def createOne (server : Server) (elapsed : Nat → Span) (builderType : String) (showStatus : Bool)
    (console : Console) : Run :=
  match CreationRequest.ofBuilderType builderType with
  | .error refusal => ⟨.returned (.error (.invalidRequest refusal.message)), console, []⟩
  | .ok request =>
    let (statuses, ending) := server request.builderType
    let lines := statuses.mapIdx fun i s => statusLine request.builderType (elapsed i) s
    let console := if showStatus then lines.foldl Console.status console else console
    let result := match ending with
      | .crashed => .crashed
      | .returned (.error e) => .returned (.error e)
      | .returned (.ok name) => .returned (named name)
    ⟨result, console, [request.builderType]⟩

/-- Asks for one instance unless a group is active, and prints its id (`LegacyCreateController`). -/
def create (server : Server) (elapsed : Nat → Span) (activeGroup : Option String)
    (builderType : String) (showStatus : Bool) (console : Console) : Run :=
  if activeGroup.isSome then ⟨.returned (.error .groupsUnsupported), console, []⟩
  else
    let run := createOne server elapsed builderType showStatus console
    match run.result with
    | .returned (.ok id) => { run with console := run.console.print id.text }
    | _ => run

end BuildFleet.Coordinator
