import BuildFleet.BuilderType
import BuildFleet.Http
import BuildFleet.Json.Decode
import BuildFleet.Text.Blank
/-!
# The builder catalog (`BuilderCatalogService`)

The dashboard's catalog lists builders and the hosts they run on. A builder can be created when its
name is not a hidden one, its host is known, and the host is a registered machine or has an image to
boot. `Catalog.creatable` lists these by name.
-/
namespace BuildFleet.Catalog

inductive Error where
  | http (detail : String)
  | status (text : String)
  | decode (detail : String)
  deriving DecidableEq, Repr

def Error.message : Error → String
  | http detail => detail
  | status text => "unexpected response status: " ++ text
  | decode detail => "invalid catalog JSON: " ++ detail

structure BuilderInfo where
  hostType : String
  deriving DecidableEq, Repr

structure HostInfo where
  isReverse : Bool
  expectNum : Int64
  containerImage : String
  vmImage : String
  deriving DecidableEq, Repr

/-- The catalog as it is served (`CatalogDocument`). -/
structure Document where
  builders : Table BuilderInfo
  hosts : Table HostInfo

/-! ## Reading -/

def BuilderInfo.record : Json.Record (Option String) BuilderInfo where
  name := "BuilderInfo"
  members := [.ofField "HostType" false Json.text id fun x _ => some x]
  blank := none
  build d := ⟨d.getD ""⟩

namespace HostInfo

structure Draft where
  isReverse : Option Bool := none
  expectNum : Option Int64 := none
  containerImage : Option String := none
  vmImage : Option String := none

def record : Json.Record Draft HostInfo where
  name := "HostInfo"
  members := [
    .ofField "IsReverse" false Json.boolean Draft.isReverse fun x d =>
      { d with isReverse := some x },
    .ofField "ExpectNum" false Json.signed64 Draft.expectNum fun x d =>
      { d with expectNum := some x },
    .ofField "ContainerImage" false Json.text Draft.containerImage fun x d =>
      { d with containerImage := some x },
    .ofField "VMImage" false Json.text Draft.vmImage fun x d => { d with vmImage := some x }]
  blank := {}
  build d := ⟨d.isReverse.getD false, d.expectNum.getD 0, d.containerImage.getD "",
    d.vmImage.getD ""⟩

end HostInfo

namespace Document

structure Draft where
  builders : Option (Table BuilderInfo) := none
  hosts : Option (Table HostInfo) := none

def record : Json.Record Draft Document where
  name := "CatalogDocument"
  members := [
    .ofField "Builders" false (Json.table BuilderInfo.record.read) Draft.builders fun x d =>
      { d with builders := some x },
    .ofField "Hosts" false (Json.table HostInfo.record.read) Draft.hosts fun x d =>
      { d with hosts := some x }]
  blank := {}
  build d := ⟨d.builders.getD .empty, d.hosts.getD .empty⟩

end Document

/-- The catalog that the bytes hold (`parse_catalog`). -/
def ofBytes (body : List UInt8) : Except Error Document :=
  match Json.decode Document.record.read body with
  | .ok document => .ok document
  | .error fault => .error (.decode (fault.message body))

def ofAnswer : Http.Answer → Except Error Document
  | .failed cause => .error (.http cause)
  | .response status body brokenOff =>
    if status ≠ 200 then .error (.status (Http.statusText status))
    else match brokenOff with
      | some cause => .error (.http cause)
      | none => ofBytes body

/-! ## Listing -/

/-- Builders whose names start with this are not for people to create (`HIDDEN_PREFIX`). -/
def isHidden (name : String) : Bool := "misc-compile".toList.isPrefixOf name.toList

/-- A host that instances can be had from. -/
def HostInfo.isUsable (host : HostInfo) : Bool :=
  host.isReverse || host.containerImage ≠ "" || host.vmImage ≠ ""

/-- The number of machines as a count of 32 bits; numbers out of range are not known. -/
def HostInfo.machines (host : HostInfo) : UInt32 :=
  let n := host.expectNum.toInt
  if 0 ≤ n ∧ n < UInt32.size then UInt32.ofNat n.toNat else 0

/-- A builder as a type on offer, if it can be created (`creatable_builders`). -/
def offer (hosts : Table HostInfo) (entry : String × BuilderInfo) : Option BuilderType :=
  if isHidden entry.1 then none
  else match hosts.get? entry.2.hostType with
    | none => none
    | some host =>
      if host.isUsable then some ⟨entry.1, host.isReverse, host.machines⟩ else none

/-- The builder types that can be created, by name (`creatable_builders`). -/
def creatable (document : Document) : List BuilderType :=
  (document.builders.entries.filterMap (offer document.hosts)).mergeSort
    fun a b => Utf8.le a.name b.name

/-- A usage text followed by the list of builder types (`render_usage`). -/
def renderUsage (usage : String) (builders : List BuilderType) : String :=
  Text.trimEnd usage ++ "\n\nValid types:\n" ++
    String.join (builders.map fun b => b.render ++ "\n")

def usage (text : String) (document : Except Error Document) : Except Error String :=
  document.map fun d => renderUsage text (creatable d)

end BuildFleet.Catalog
