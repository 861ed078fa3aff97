import GridLoad.Json.Decode

/-!
Health of the service by component. The whole is as bad as the worst of its components, and the service is
ready as long as none of them has failed.
-/

set_option autoImplicit false

namespace GridLoad

inductive Condition where
  | healthy
  | degraded
  | unhealthy
  deriving DecidableEq

namespace Condition

def name : Condition → String
  | .healthy => "healthy"
  | .degraded => "degraded"
  | .unhealthy => "unhealthy"

def named : List (String × Condition) :=
  [("healthy", .healthy), ("degraded", .degraded), ("unhealthy", .unhealthy)]

def isOperational : Condition → Bool
  | .unhealthy => false
  | _ => true

def toJson (c : Condition) : Json := .str c.name

def ofJson? (nothing : Json → Bool := Json.isNull) : Json.Decoder Condition := Json.toOneOf? nothing named

end Condition

structure Finding where
  condition : Condition
  message : Option String := none
  checkedAt : Int := 0
  deriving DecidableEq

namespace Finding

def healthy : Finding := { condition := .healthy }

def degraded (message : String) : Finding := { condition := .degraded, message := some message }

def unhealthy (message : String) : Finding := { condition := .unhealthy, message := some message }

def toJson (f : Finding) : Json :=
  .sparse [("status", some f.condition.toJson), ("message", f.message.map .str),
    ("last_check_timestamp", some (.int f.checkedAt))]

def ofJson? : Json.Decoder Finding := fun j => do
  let r ← Json.toRecord? ["status", "message", "last_check_timestamp"] j
  let condition ← r.required "status" Condition.ofJson?
  let message ← r.nullable "message" Json.toText?
  let checkedAt ← r.required "last_check_timestamp" Json.toSigned64?
  some ⟨condition, message, checkedAt⟩

end Finding

inductive Component where
  | registry
  | featureSource
  | cache
  deriving DecidableEq

def Component.name : Component → String
  | .registry => "registry"
  | .featureSource => "feature_source"
  | .cache => "cache"

structure HealthReport where
  condition : Condition
  findings : Table String Finding
  deriving DecidableEq

def worst (findings : Table String Finding) : Condition :=
  let conditions := findings.values.map (·.condition)
  if conditions.contains .unhealthy then .unhealthy
  else if conditions.contains .degraded then .degraded
  else .healthy

namespace HealthReport

def toJson (r : HealthReport) : Json :=
  .record [("status", r.condition.toJson),
    ("components", .record (r.findings.entries.map fun e => (e.1, e.2.toJson)))]

def ofJson? : Json.Decoder HealthReport := fun j => do
  let r ← Json.toRecord? ["status", "components"] j
  let condition ← r.required "status" Condition.ofJson?
  let findings ← r.required "components" (Json.toTable? Json.textOf? Finding.ofJson?)
  some ⟨condition, findings⟩

end HealthReport

structure Readiness where
  ready : Bool
  reason : Option String := none
  deriving DecidableEq

namespace Readiness

def toJson (r : Readiness) : Json :=
  .sparse [("ready", some (.bool r.ready)), ("reason", r.reason.map .str)]

def ofJson? : Json.Decoder Readiness := fun j => do
  let r ← Json.toRecord? ["ready", "reason"] j
  let ready ← r.required "ready" Json.toBool?
  let reason ← r.nullable "reason" Json.toText?
  some ⟨ready, reason⟩

end Readiness

structure Health where
  findings : Table String Finding := .empty
  ready : Bool := false
  deriving DecidableEq

instance : Inhabited Health := ⟨{}⟩

def registryFinding (generation available : Nat) (unavailable : List String) : Finding :=
  let generation := "generation " ++ toString generation
  if available = 0 then .unhealthy (generation ++ ": no zone model available")
  else if unavailable.isEmpty then .healthy
  else .degraded (generation ++ ": unavailable zones " ++ ", ".intercalate unavailable)

namespace Health

def update (name : String) (f : Finding) (h : Health) : Health :=
  { h with findings := h.findings.insert name f }

def setReady (ready : Bool) (h : Health) : Health := { h with ready := ready }

def report (h : Health) : HealthReport := ⟨worst h.findings, h.findings⟩

def readiness (h : Health) : Readiness :=
  if !h.ready then ⟨false, some "Model registry not yet published"⟩
  else if !h.report.condition.isOperational then ⟨false, some "Critical component unhealthy"⟩
  else ⟨true, none⟩

end Health

end GridLoad
