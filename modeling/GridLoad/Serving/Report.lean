import GridLoad.Forecast.Stored
import GridLoad.Group.Catalog
import GridLoad.Zone.Registry

/-!
What the service tells of its zones: a listing, the status of one zone, and the outcome of a reload.
-/

set_option autoImplicit false

namespace GridLoad

open GridLoad.Time (Timestamp)

inductive ZoneKind where
  | real
  | virtual
  deriving DecidableEq

namespace ZoneKind

def name : ZoneKind → String
  | .real => "real"
  | .virtual => "virtual"

def named : List (String × ZoneKind) := [("real", .real), ("virtual", .virtual)]

def toJson (k : ZoneKind) : Json := .str k.name

def ofJson? (nothing : Json → Bool := Json.isNull) : Json.Decoder ZoneKind := Json.toOneOf? nothing named

end ZoneKind

def nonEmpty (texts : List String) : Option Json := if texts.isEmpty then none else some (.strings texts)

structure ZoneStatus where
  zone : String
  kind : ZoneKind
  available : Bool
  lastComputedAt : Option Timestamp := none
  -- By variant, and for a virtual zone by constituent and variant.
  modelVersions : Table String String := .empty
  weightsVersion : Option String := none
  issues : List String := []
  members : List String := []
  generation : Nat
  current : Option Prediction := none
  currentError : Option String := none
  deriving DecidableEq

def ZoneStatus.toJson (s : ZoneStatus) : Json :=
  .sparse [("zone_id", some (.str s.zone)), ("kind", some s.kind.toJson),
    ("available", some (.bool s.available)), ("last_computed_at", some (.option timestampJson s.lastComputedAt)),
    ("model_versions", some (namesJson .str s.modelVersions)),
    ("ensemble_version", s.weightsVersion.map .str), ("issues", some (.strings s.issues)),
    ("constituents", nonEmpty s.members), ("registry_generation", some (.nat s.generation)),
    ("current", some (.option Prediction.toJson s.current)), ("current_error", s.currentError.map .str)]

structure ZoneSummary where
  zone : String
  kind : ZoneKind
  available : Bool
  members : List String := []
  displayName : Option String := none
  region : Option String := none
  deriving DecidableEq

def ZoneSummary.toJson (s : ZoneSummary) : Json :=
  .sparse [("zone_id", some (.str s.zone)), ("kind", some s.kind.toJson),
    ("available", some (.bool s.available)), ("constituents", nonEmpty s.members),
    ("display_name", s.displayName.map .str), ("region", s.region.map .str)]

structure ReloadReport where
  previous : Nat
  generation : Nat
  available : List String
  unavailable : List String
  dropped : Nat
  deriving DecidableEq

def ReloadReport.toJson (r : ReloadReport) : Json :=
  .record [("previous_generation", .nat r.previous), ("generation", .nat r.generation),
    ("zones_available", .strings r.available), ("zones_unavailable", .strings r.unavailable),
    ("cache_entries_dropped", .nat r.dropped)]

def groupStatus (r : Registry) (g : Group) : ZoneStatus :=
  let entries := g.members.map fun m => (m.zone, r.find? m.zone)
  { zone := g.id
    kind := .virtual
    available := entries.all fun e => e.2.any ZoneEntry.isAvailable
    modelVersions := Table.ofList (entries.flatMap fun e =>
      (e.2.map ZoneEntry.modelVersions).getD [] |>.map fun v => (e.1 ++ "." ++ v.1.name, v.2))
    issues := entries.flatMap fun e =>
      match e.2 with
      | some entry => entry.issues.map fun issue => e.1 ++ ": " ++ issue
      | none => [e.1 ++ ": no model artifacts"]
    members := g.memberIds
    generation := r.generation }

def entryStatus (r : Registry) (zone : String) (e : ZoneEntry) : ZoneStatus where
  zone := zone
  kind := .real
  available := e.isAvailable
  modelVersions := Table.ofList (e.modelVersions.map fun v => (v.1.name, v.2))
  weightsVersion := some e.manifest.weights.version
  issues := e.issues
  generation := r.generation

-- Status of a zone before it is forecast. A virtual zone hides a real one of its name.
def describe (c : Catalog) (r : Registry) (zone : String) : Except Failure ZoneStatus :=
  match c.get? zone, r.find? zone with
  | some g, _ => .ok (groupStatus r g)
  | none, some e => .ok (entryStatus r zone e)
  | none, none => .error (.noModel zone)

-- Real zones that no virtual zone hides, and then the virtual zones.
def zoneSummaries (c : Catalog) (r : Registry) : List ZoneSummary :=
  ((r.zones.filter fun zone _ => !c.contains zone).entries.map fun z =>
    { zone := z.1
      kind := .real
      available := z.2.isAvailable
      displayName := z.2.manifest.displayName
      region := z.2.manifest.region }) ++
  c.groups.values.map fun g =>
    { zone := g.id
      kind := .virtual
      available := g.members.all fun m => r.availableZones.contains m.zone
      members := g.memberIds }

end GridLoad
