import GridLoad.Cache.Basic
import GridLoad.Feature.Captures
import GridLoad.Group.Combination

/-!
Settings of the service. `validate` tells the first that cannot be served with.
-/

set_option autoImplicit false

namespace GridLoad

open GridLoad.Time (Span)

structure Settings where
  requestTimeout : Span := Span.ofSeconds 2
  confidenceLevel : Float := 0.95
  statusHorizon : Nat := 1
  combination : Combination := .independent
  cache : CacheLimits := {}
  captures : CaptureRules := {}
  deriving DecidableEq

instance : Inhabited Settings := ⟨{}⟩

namespace Settings

def validate (s : Settings) : Except Failure Unit :=
  if !(0.8 ≤ s.confidenceLevel && s.confidenceLevel < 1.0) then
    .error (.configuration
      ("confidence level " ++ Decimal.spoken.write s.confidenceLevel ++ " must lie in [0.8, 1)"))
  else if s.requestTimeout.nanos = 0 then .error (.configuration "request timeout must be positive")
  else s.combination.validate.mapError .configuration

-- The wait for a refresh is kept well inside the budget of a request.
def captureRules (s : Settings) : CaptureRules :=
  { s.captures with refreshWait := s.captures.refreshWait.min s.requestTimeout.quarter }

def toJson (s : Settings) : Json :=
  .record [("request_timeout_ms", .nat s.requestTimeout.millisWord),
    ("confidence_level", .amount s.confidenceLevel), ("status_horizon_hours", .nat s.statusHorizon),
    ("ttl_ms", .nat s.cache.lifetime.millisWord), ("max_entries", .nat s.cache.capacity),
    ("refresh_interval_ms", .nat s.captures.refreshInterval.millisWord),
    ("refresh_wait_ms", .nat s.captures.refreshWait.millisWord),
    ("retention_ms", .nat s.captures.retention.millisWord),
    ("max_age_ms", .nat (Span.ofSeconds s.captures.maxAgeSeconds).millisWord),
    ("freshness", s.captures.freshness.toJson)]

end Settings

end GridLoad
