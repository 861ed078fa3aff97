import GridLoad.Config.Keys
import GridLoad.Config.Toml.Document
import GridLoad.Feature.Remote
import GridLoad.Group.Catalog
import GridLoad.Serving.Settings

/-!
Settings of the server: a file, and variables of the environment that go before it. What neither of them
gives has a standard value.
-/

set_option autoImplicit false

namespace GridLoad.Config

open GridLoad.Time (Span)

inductive FeatureSettings where
  | file (path : String)
  | remote (address : String) (retries firstWaitMillis timeoutMillis : Nat)
  deriving DecidableEq

structure ServerSettings where
  port : Nat := 8080
  instanceName : String
  modelsRoot : String := "models"
  features : FeatureSettings := .file "features/current.json"
  cacheSeconds : Nat := 300
  requestMillis : Nat := 2000
  refreshSeconds : Nat := 300
  refreshWaitMillis : Nat := 250
  retentionSeconds : Nat := 3600
  maxAgeSeconds : Nat := 10800
  freshness : Freshness := .warn
  confidenceLevel : Float := 0.95
  statusHorizon : Nat := 1
  combination : Combination := .independent
  watchModels : Bool := false
  groups : List Group := [⟨"LA_METRO", [⟨"SCE", 0.79⟩, ⟨"SP15", 0.21⟩]⟩]
  deriving DecidableEq

namespace FeatureSettings

def fieldNames (kind : String) : List String :=
  if kind = "file" then ["path"] else ["url", "max_retries", "retry_backoff_ms", "request_timeout_ms"]

def ofValue? : Decoder FeatureSettings := fun v => do
  let (kind, fields) ← tagged? "kind" fieldNames v
  if kind = "file" then (required fields "path" Value.plainText?).map .file
  else if kind = "http" then do
    let address ← required fields "url" Value.plainText?
    let retries ← defaulted fields "max_retries" 2 (Value.plainWord? 32)
    let firstWait ← defaulted fields "retry_backoff_ms" 200 (Value.plainWord? 64)
    let timeout ← defaulted fields "request_timeout_ms" 5000 (Value.plainWord? 64)
    some (.remote address retries firstWait timeout)
  else none

def toJson : FeatureSettings → Json
  | .file path => .record [("kind", .str "file"), ("path", .str path)]
  | .remote address retries firstWait timeout =>
      .record [("kind", .str "http"), ("url", .str address), ("max_retries", .nat retries),
        ("retry_backoff_ms", .nat firstWait), ("request_timeout_ms", .nat timeout)]

def remoteRules? : FeatureSettings → Option RemoteRules
  | .file _ => none
  | .remote address retries firstWait timeout =>
      some { address := address, retries := retries, firstWait := Span.ofMillis firstWait
             timeout := Span.ofMillis timeout }

-- Name of the source, if there can be one.
def sourceName (f : FeatureSettings) : Except Failure String :=
  match f.remoteRules? with
  | none => .ok "file"
  | some rules => rules.validate.map fun _ => "http"

end FeatureSettings

def combinationOf? : Decoder Combination := fun v => do
  let (mode, fields) ← tagged? "mode" (fun mode => if mode = "correlated" then ["correlation"] else []) v
  if mode = "independent" then some .independent
  else if mode = "correlated" then (required fields "correlation" Value.plainAmount?).map .correlated
  else none

def memberOf? : Decoder Member := fun v => do
  let fields ← Value.fields? ["zone", "weight"] v
  let zone ← required fields "zone" Value.toText?
  let weight ← defaulted fields "weight" 1 Value.toAmount?
  some ⟨zone, weight⟩

def groupOf? : Decoder Group := fun v => do
  let fields ← Value.fields? ["id", "constituents"] v
  let id ← required fields "id" Value.toText?
  let members ← required fields "constituents" (Value.toList? memberOf?)
  some ⟨id, members⟩

namespace ServerSettings

def ofValue? (hostName : String) : Decoder ServerSettings := fun v => do
  let fields := fieldsOf v
  let standard : ServerSettings := { instanceName := hostName }
  let word := fun name fallback => defaulted fields name fallback (Value.toWord? 64)
  let port ← defaulted fields "api_port" standard.port (Value.toWord? 16)
  let instanceName ← defaulted fields "instance" standard.instanceName Value.toText?
  let modelsRoot ← defaulted fields "models_root" standard.modelsRoot Value.toText?
  let features ← defaulted fields "features" standard.features FeatureSettings.ofValue?
  let cacheSeconds ← word "cache_ttl_secs" standard.cacheSeconds
  let requestMillis ← word "request_timeout_ms" standard.requestMillis
  let refreshSeconds ← word "snapshot_refresh_secs" standard.refreshSeconds
  let refreshWaitMillis ← word "snapshot_refresh_wait_ms" standard.refreshWaitMillis
  let retentionSeconds ← word "snapshot_retention_secs" standard.retentionSeconds
  let maxAgeSeconds ← word "max_snapshot_age_secs" standard.maxAgeSeconds
  let freshness ← defaulted fields "freshness_policy" standard.freshness (Value.toOneOf? Freshness.named)
  let confidenceLevel ← defaulted fields "confidence_level" standard.confidenceLevel Value.toAmount?
  let statusHorizon ← defaulted fields "status_horizon_hours" standard.statusHorizon (Value.toWord? 32)
  let combination ← defaulted fields "interval_combination" standard.combination combinationOf?
  let watchModels ← defaulted fields "watch_models" standard.watchModels Value.toFlag?
  let groups ← defaulted fields "virtual_zones" standard.groups (Value.toList? groupOf?)
  some {
    port, instanceName, modelsRoot, features, cacheSeconds, requestMillis, refreshSeconds, refreshWaitMillis,
    retentionSeconds, maxAgeSeconds, freshness, confidenceLevel, statusHorizon, combination, watchModels, groups }

def settings (s : ServerSettings) : Settings where
  requestTimeout := Span.ofMillis s.requestMillis
  confidenceLevel := s.confidenceLevel
  statusHorizon := s.statusHorizon
  combination := s.combination
  cache := { lifetime := Span.ofSeconds s.cacheSeconds }
  captures :=
    { refreshInterval := Span.ofSeconds s.refreshSeconds
      refreshWait := Span.ofMillis s.refreshWaitMillis
      retention := Span.ofSeconds s.retentionSeconds
      maxAgeSeconds := s.maxAgeSeconds
      freshness := s.freshness }

def catalog (s : ServerSettings) : Except String Catalog :=
  (Catalog.define s.groups).mapError fun failure => "Invalid virtual zone definitions: " ++ failure.message

def sourceName (s : ServerSettings) : Except String String :=
  s.features.sourceName.mapError fun failure => "Failed to build HTTP feature source: " ++ failure.message

def toJson (s : ServerSettings) : Json :=
  .record [("api_port", .nat s.port), ("instance", .str s.instanceName), ("models_root", .str s.modelsRoot),
    ("features", s.features.toJson), ("watch_models", .bool s.watchModels),
    ("virtual_zones", .array (s.groups.map Group.toJson)), ("interval_combination", s.combination.toJson)]

end ServerSettings

-- Settings in a JSON document, which has to be an object.
def jsonSettings? (text : String) : Option (List (String × Value)) := do
  let j ← Json.ofText? text
  match j with
  | .object _ =>
      if j.holdable && j.depth ≤ Json.greatestDepth then some (fieldsOf (Value.ofJson j)) else none
  | _ => none

def extension (path : String) : String := ((path.splitOn ".").getLast?).getD ""

-- Settings of a file by its extension. A file that is not there, or of no known form, gives none.
def fileSettings? (path : String) (content : Option (List UInt8)) : Option (List (String × Value)) :=
  match content.bind Text.ofBytes? with
  | none => some []
  | some text =>
      match extension path with
      | "json" => jsonSettings? text
      | "toml" => Toml.ofText? text
      | _ => some []

-- What the names of variables of the environment start with.
def environmentMark : String := "zone_forecast__"

def environmentSeparator : String := "__"

/-- Settings from a file, which need not be there, and from the environment. -/
def load (path hostName : String) (content : Option (List UInt8)) (environment : List (String × String)) :
    Except String ServerSettings :=
  match fileSettings? path content with
  | none => .error ("Failed to read configuration from " ++ path)
  | some fields =>
      let merged := merge [fields, ofEnvironment environmentMark environmentSeparator environment]
      match ServerSettings.ofValue? hostName merged with
      | some s => .ok s
      | none => .error "Invalid service configuration"

end GridLoad.Config
