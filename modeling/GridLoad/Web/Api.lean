import GridLoad.Serving.Engine
import GridLoad.Serving.Service
import GridLoad.Web.Message
import GridLoad.Web.Reading

/-!
The service on the web: a route for each thing that can be asked for, and the response to each request. A
path without a route is not found, and a route answers only to its methods.
-/

set_option autoImplicit false

namespace GridLoad.Web

-- What a path leads to. A zone is still as the path has it.
inductive Route where
  | zones
  | predict (zone : String)
  | trend (zone : String)
  | status (zone : String)
  | reload
  | health
  | readiness
  | metrics
  deriving DecidableEq

namespace Route

def ofPath? (path : String) : Option Route :=
  match parts '/' path with
  | ["", "v1", "zones"] => some .zones
  | ["", "v1", "zones", zone, "predict"] => some (.predict zone)
  | ["", "v1", "zones", zone, "trend"] => some (.trend zone)
  | ["", "v1", "zones", zone, "status"] => some (.status zone)
  | ["", "admin", "reload"] => some .reload
  | ["", "healthz"] => some .health
  | ["", "readyz"] => some .readiness
  | ["", "metrics"] => some .metrics
  | _ => none

def allows : Route → Method → Bool
  | _, .other => false
  | .reload, m => m = .post
  | .predict _, _ => true
  | _, m => m ≠ .post

end Route

def respond {α : Type} (encode : α → Json) : Outcome α → Outcome Response
  | .ok value => .ok (.ok (encode value))
  | .error (.failed failure) => .ok failure.response
  | .error halt => .error halt

def withZone (segment : String) (next : String → Serve (Outcome Response)) : Serve (Outcome Response) :=
  match segmentText? segment with
  | some zone => next zone
  | none => pure (.ok (.unreadable "the zone is not text"))

def trendJson (zone : String) (predictions : List Prediction) : Json :=
  .record [("zone_id", .str zone), ("predictions", .array (predictions.map Prediction.toJson))]

def zonesJson (generation : Nat) (zones : List ZoneSummary) : Json :=
  .record [("registry_generation", .nat generation), ("zones", .array (zones.map ZoneSummary.toJson))]

namespace Api

variable (v : Service)

def predictQuery (query zone : String) : Serve (Outcome Response) :=
  match pointQuery? query with
  | none => pure (.ok (.unreadable "the query cannot be read"))
  | some (none, _) =>
      pure (.ok (.refused "missing_horizon" "query parameter \x60horizon\x60 is required"))
  | some (some horizon, snapshot) => do
      let outcome ← v.predict zone horizon { snapshot := snapshot }
      pure (respond Prediction.toJson outcome)

def predictBody (r : Request) (zone : String) : Serve (Outcome Response) :=
  match Wanted.ofBody? r.contentType r.body with
  | none => pure (.ok (.refused "invalid_body" unreadable))
  | some wanted => do
      let outcome ← v.predict zone wanted.horizon wanted.options
      pure (respond Prediction.toJson outcome)

def trend (query zone : String) : Serve (Outcome Response) :=
  match trendQuery? query with
  | none => pure (.ok (.unreadable "the query cannot be read"))
  | some (text, snapshot) =>
      match horizonsOfText text with
      | .error message => pure (.ok (.refused "invalid_horizons" message))
      | .ok horizons => do
          let outcome ← v.trend zone horizons { snapshot := snapshot }
          pure (respond (trendJson zone) outcome)

def zones : Serve (Outcome Response) := do
  let r ← act .registry
  let summaries ← v.zones
  pure (.ok (.ok (zonesJson r.generation summaries)))

-- A service that has failed says so in the status, too.
def health : Serve (Outcome Response) := do
  let h ← act .health
  pure (.ok (.document (if h.report.condition.isOperational then 200 else 503) h.report.toJson))

def readiness : Serve (Outcome Response) := do
  let h ← act .health
  pure (.ok (.document (if h.readiness.ready then 200 else 503) h.readiness.toJson))

def metrics : Serve (Outcome Response) := do
  let series ← act .series
  pure (.ok ⟨200, .text (String.join (series.map fun s => s.1 ++ " " ++ toString s.2 ++ "\n"))⟩)

def serve (route : Route) (r : Request) : Serve (Outcome Response) :=
  match route with
  | .zones => zones v
  | .predict zone => withZone zone (if r.method = .post then predictBody v r else predictQuery v r.query)
  | .trend zone => withZone zone (trend v r.query)
  | .status zone => withZone zone fun zone => do
      let outcome ← v.status zone
      pure (respond ZoneStatus.toJson outcome)
  | .reload => do
      let outcome ← Service.reload
      pure (respond ReloadReport.toJson outcome)
  | .health => health
  | .readiness => readiness
  | .metrics => metrics

def answer (r : Request) : Serve (Outcome Response) :=
  match Route.ofPath? r.path with
  | none => pure (.ok (.empty 404))
  | some route =>
      if !route.allows r.method then pure (.ok (.empty 405))
      else do
        let outcome ← serve v route r
        pure (if r.method = .head then outcome.map fun a => .empty a.status else outcome)

-- A request with its budget. A reload takes as long as it takes.
def task (r : Request) : Engine.Task (Outcome Response) :=
  ⟨if Route.ofPath? r.path = some .reload then none else some v.setup.settings.requestTimeout, answer v r⟩

end Api

end GridLoad.Web
