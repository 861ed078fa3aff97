import GridLoad.Forecast.Zone
import GridLoad.Group.Resolve
import GridLoad.Serving.Question
import GridLoad.Serving.Setup

/-!
The one path from a zone to a value. It goes through the cache for virtual zones and for their constituents,
so that a virtual zone and its constituents rest on the same values whichever is asked for first.
-/

set_option autoImplicit false

namespace GridLoad

/-- A forecast from the cache, or from a computation that is then stored. A failure is not stored. -/
def cached (key : Key) (compute : Serve (Outcome Prediction)) : Serve (Outcome Cached) := do
  let slot ← act (.slot key)
  match ← wait (.enter slot) with
  | none => pure (.error .outOfTime)
  | some (.found p) => pure (.ok ⟨p, true⟩)
  | some .granted => do
      let outcome ← compute
      act (.leave slot outcome.toOption)
      pure (outcome.map fun p => ⟨p, false⟩)

def computeZone (setup : Setup) (r : Registry) (zone : String) (horizon : Nat) (s : NamedSnapshot) :
    Serve (Outcome Prediction) := do
  let now ← act .wallTime
  let asked := zoneForecast setup.settings.confidenceLevel r zone horizon s now
  asked.variants.forM fun v => act (.count (.invocations zone v))
  pure asked.outcome

def keyOf (r : Registry) (zone : String) (horizon : Nat) (s : NamedSnapshot) : Key :=
  ⟨zone, horizon, s.token, r.generation⟩

def resolveZone (setup : Setup) (r : Registry) (horizon : Nat) (s : NamedSnapshot) (zone : String) :
    Serve (Outcome Cached) :=
  cached (keyOf r zone horizon s) (computeZone setup r zone horizon s)

def computeGroup (setup : Setup) (r : Registry) (g : Group) (horizon : Nat) (s : NamedSnapshot) :
    Serve (Outcome Prediction) := do
  let now ← act .wallTime
  let ask := fun zone => do
    let outcome ← resolveZone setup r horizon s zone
    pure (outcome.map (·.prediction))
  let (outcome, events) ← groupForecast setup.settings.combination ask g horizon s.token now
  events.forM fun event => act (.note event)
  pure outcome

/-- The one path from a zone to a value. -/
def resolve (setup : Setup) (r : Registry) (zone : String) (horizon : Nat) (s : NamedSnapshot) :
    Serve (Outcome Cached) :=
  match setup.catalog.get? zone with
  | none => resolveZone setup r horizon s zone
  | some g => cached (keyOf r zone horizon s) (computeGroup setup r g horizon s)

end GridLoad
