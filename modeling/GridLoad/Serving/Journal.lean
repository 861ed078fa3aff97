import GridLoad.Feature.Token
import GridLoad.Text.Quoted

/-!
Events of the service that are put on record, each with its severity, message and fields.
-/

set_option autoImplicit false

namespace GridLoad

inductive Event where
  | started (version : String) (generation zones : Nat)
  | shutDown (reason : String)
  | served (operation zone : String) (horizon : Nat) (token : Token) (point width : Float) (cached : Bool)
  | aggregated (group : String) (horizon : Nat) (token : Token) (members : List String) (point : Float)
  | memberFailed (group member : String) (horizon : Nat) (token : Token) (kind message : String)
  | reloaded (previous current available unavailable : Nat)
  | reloadFailed (previous : Nat) (reason : String)
  | modelRejected (zone : String) (variant : Variant) (reason : String)
  | captured (token : Token) (zones : Nat) (source : String)
  | stale (token : Token) (age limit : Int) (rejected : Bool)
  deriving DecidableEq

inductive FieldValue where
  | text (value : String)
  | count (value : Int)
  | amount (value : Float)
  | flag (value : Bool)
  deriving DecidableEq

inductive Severity where
  | info
  | warning
  deriving DecidableEq

def Severity.name : Severity → String
  | .info => "INFO"
  | .warning => "WARN"

def FieldValue.toJson : FieldValue → Json
  | .text value => .str value
  | .count value => .int value
  | .amount value => .amount value
  | .flag value => .bool value

namespace Event

def name : Event → String
  | .started .. => "service_started"
  | .shutDown .. => "service_shutdown"
  | .served .. => "prediction_served"
  | .aggregated .. => "composite_aggregated"
  | .memberFailed .. => "constituent_failed"
  | .reloaded .. => "registry_reloaded"
  | .reloadFailed .. => "registry_reloaded"
  | .modelRejected .. => "model_rejected"
  | .captured .. => "snapshot_captured"
  | .stale .. => "snapshot_stale"

def severity : Event → Severity
  | .memberFailed .. => .warning
  | .reloadFailed .. => .warning
  | .modelRejected .. => .warning
  | .stale .. => .warning
  | _ => .info

def message : Event → String
  | .started .. => "Zone forecast service started"
  | .shutDown .. => "Zone forecast service shutting down"
  | .served .. => "Served zone prediction"
  | .aggregated .. => "Aggregated composite zone from constituents"
  | .memberFailed .. => "Composite zone unavailable, constituent failed"
  | .reloaded .. => "Model registry reloaded"
  | .reloadFailed .. => "Model registry reload failed, keeping previous generation"
  | .modelRejected .. => "Model artifact rejected, zone variant unavailable"
  | .captured .. => "Captured feature snapshot"
  | .stale .. => "Feature snapshot older than freshness limit"

def fields : Event → List (String × FieldValue)
  | .started version generation zones =>
      [("version", .text version), ("registry_generation", .count generation), ("zones_available", .count zones)]
  | .shutDown reason => [("reason", .text reason)]
  | .served operation zone horizon token point width cached =>
      [("operation", .text operation), ("zone", .text zone), ("horizon", .count horizon),
        ("snapshot", .text token), ("point_estimate_mw", .amount point), ("interval_width_mw", .amount width),
        ("cached", .flag cached)]
  | .aggregated group horizon token members point =>
      [("zone", .text group), ("horizon", .count horizon), ("snapshot", .text token),
        ("constituents", .text (Text.quotedList members)), ("point_estimate_mw", .amount point)]
  | .memberFailed group member horizon token kind message =>
      [("zone", .text group), ("constituent", .text member), ("horizon", .count horizon),
        ("snapshot", .text token), ("error_kind", .text kind), ("error", .text message)]
  | .reloaded previous current available unavailable =>
      [("old_generation", .count previous), ("new_generation", .count current),
        ("zones_available", .count available), ("zones_unavailable", .count unavailable)]
  | .reloadFailed previous reason =>
      [("old_generation", .count previous), ("error", .text (Text.quotedOption (some reason)))]
  | .modelRejected zone variant reason =>
      [("zone", .text zone), ("variant", .text variant.name), ("reason", .text reason)]
  | .captured token zones source =>
      [("snapshot", .text token), ("zones", .count zones), ("source", .text source)]
  | .stale token age limit rejected =>
      [("snapshot", .text token), ("age_secs", .count age), ("limit_secs", .count limit),
        ("rejected", .flag rejected)]

def toJson (service : String) (e : Event) : Json :=
  .record ([("event", .str e.name), ("instance", .str service), ("level", .str e.severity.name),
    ("message", .str e.message)] ++ e.fields.map fun f => (f.1, f.2.toJson))

end Event

end GridLoad
