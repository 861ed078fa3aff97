import GridLoad.Serving.Lookup
import GridLoad.Serving.Report
import GridLoad.Serving.Snapshots

/-!
The operations of the service: forecasts, trends and the status of a zone, each with a budget, and the reload
of the models.
-/

set_option autoImplicit false

namespace GridLoad

def isKnown (c : Catalog) (r : Registry) (zone : String) : Bool := c.contains zone || r.contains zone

def served (operation : String) (c : Cached) : Event :=
  let p := c.prediction
  .served operation p.zone p.horizon p.token p.point p.width c.hit

/-- An operation with a budget, which is counted, as is its failure. One that broke off is not. -/
def bounded {α : Type} (setup : Setup) (operation : String) (body : Serve (Outcome α)) : Serve (Outcome α) := do
  let outcome ← body
  match outcome with
  | .ok value => do
      act (.count (.latency operation))
      pure (.ok value)
  | .error .pastCalendar => pure (.error .pastCalendar)
  | .error halt => do
      let failure := match halt with
        | .failed failure => failure
        | _ => .timedOut setup.settings.requestTimeout
      act (.count (.latency operation))
      act (.count (.failures failure.kind))
      pure (fail failure)

/-- A service: what does not change, and what its source is called. -/
structure Service where
  setup : Setup := {}
  sourceName : String := "static"

instance : Inhabited Service := ⟨{}⟩

namespace Service

variable (v : Service)

def predict (zone : String) (horizon : Nat) (o : Options) : Serve (Outcome Prediction) :=
  bounded v.setup "predict" do
    let r ← act .registry
    if !isKnown v.setup.catalog r zone then pure (fail (.noModel zone))
    else
      match ← snapshotFor v.setup v.sourceName zone o with
      | .error halt => pure (.error halt)
      | .ok s =>
          match ← resolve v.setup r zone horizon s with
          | .error halt => pure (.error halt)
          | .ok c => do
              act (.note (served "predict" c))
              pure (.ok c.prediction)

-- Forecasts at several horizons in turn, up to the first that fails.
def series (setup : Setup) (r : Registry) (zone : String) (s : NamedSnapshot) :
    List Nat → Serve (Outcome (List Prediction))
  | [] => pure (.ok [])
  | horizon :: rest => do
      match ← resolve setup r zone horizon s with
      | .error halt => pure (.error halt)
      | .ok c => do
          act (.note (served "trend" c))
          let others ← series setup r zone s rest
          pure (others.map (c.prediction :: ·))

/-- Forecasts at several horizons, all from one snapshot. -/
def trend (zone : String) (horizons : List Nat) (o : Options) : Serve (Outcome (List Prediction)) :=
  bounded v.setup "trend" do
    let r ← act .registry
    if !isKnown v.setup.catalog r zone then pure (fail (.noModel zone))
    else
      match ← snapshotFor v.setup v.sourceName zone o with
      | .error halt => pure (.error halt)
      | .ok s => series v.setup r zone s horizons

def isConstituentFailure : Failure → Bool
  | .constituent .. => true
  | _ => false

def withoutCurrent (status : ZoneStatus) (failure : Failure) : ZoneStatus :=
  { status with
    issues := if status.available then status.issues ++ [failure.message] else status.issues
    currentError := some failure.message
    available := status.available && !isConstituentFailure failure }

def currentForecast (r : Registry) (zone : String) : Serve (Outcome Cached) := do
  match ← snapshotFor v.setup v.sourceName zone {} with
  | .error halt => pure (.error halt)
  | .ok s => resolve v.setup r zone v.setup.settings.statusHorizon s

/-- Availability, model versions and the current value of a zone. -/
def status (zone : String) : Serve (Outcome ZoneStatus) :=
  bounded v.setup "status" do
    let r ← act .registry
    match describe v.setup.catalog r zone with
    | .error failure => pure (fail failure)
    | .ok described =>
        let finish := fun (status : ZoneStatus) => do
          let lastComputedAt ← act (.lastComputed zone)
          pure (.ok { status with lastComputedAt := lastComputedAt })
        match ← v.currentForecast r zone with
        | .ok c => do
            act (.note (served "status" c))
            finish { described with current := some c.prediction }
        | .error (.failed failure) => finish (withoutCurrent described failure)
        | .error halt => pure (.error halt)

def zones : Serve (List ZoneSummary) := do
  let r ← act .registry
  pure (zoneSummaries v.setup.catalog r)

def rejections (r : Registry) : List Event :=
  r.zones.entries.flatMap fun e =>
    Variant.all.filterMap fun variant =>
      (e.2.holding variant).reason?.map fun reason => .modelRejected e.1 variant reason

def announce (r : Registry) : Serve Unit := do
  act (.gauge r)
  (rejections r).forM fun event => act (.note event)
  act (.find .registry (registryFinding r.generation r.availableZones.length r.unavailableZones))

def replaceRegistry (previous : Registry) (root : Path) : Serve (Outcome ReloadReport) := do
  let generation ← act .generation
  match ← wait (.models root generation) with
  | none => pure (.error .outOfTime)
  | some (.error reason) => do
      act (.count (.reloads "failure"))
      act (.note (.reloadFailed previous.generation reason))
      pure (fail (.configuration reason))
  | some (.ok loaded) => do
      act (.publish loaded)
      let r ← act .registry
      act (.count (.latency "reload"))
      let dropped ← act (.retain r.generation)
      announce r
      act (.count (.reloads "success"))
      let report : ReloadReport :=
        ⟨previous.generation, r.generation, r.availableZones, r.unavailableZones, dropped⟩
      act (.note (.reloaded report.previous report.generation report.available.length
        report.unavailable.length))
      pure (.ok report)

/-- Reads the model directory anew. Reloads take turns. -/
def reload : Serve (Outcome ReloadReport) := do
  match ← wait .reloadTurn with
  | none => pure (.error .outOfTime)
  | some () => do
      let previous ← act .registry
      let outcome ← match previous.root with
        | none => pure (fail (.configuration "registry was not loaded from a directory"))
        | some root => replaceRegistry previous root
      act .endReload
      pure outcome

/-- Drops expired forecasts and tokens, and tells how many. The tokens are counted before and after. -/
def purge : Serve (Nat × Int) := do
  let slots ← act .purgeCache
  let before ← act .pinCount
  act .dropPins
  let after ← act .pinCount
  pure (slots, before - after)

end Service

end GridLoad
