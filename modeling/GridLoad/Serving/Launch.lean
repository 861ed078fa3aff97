import GridLoad.Serving.Engine
import GridLoad.Serving.Service

/-!
A service as it is when it has just been started.
-/

set_option autoImplicit false

namespace GridLoad

structure Running where
  service : Service
  engine : Engine

instance : Inhabited Running := ⟨{}, {}⟩

-- What a service says of its components before the first request.
def introduction (r : Registry) : Serve Unit := do
  act (.find .featureSource .healthy)
  act (.find .cache .healthy)
  Service.announce r

def launch (setup : Setup) (r : Registry) (source : Source) (files : Files) (clock : Clock) :
    Except Failure Running :=
  match setup.settings.validate with
  | .error failure => .error failure
  | .ok () =>
      let engine : Engine :=
        { files := files
          publication := .first r
          cache := { limits := setup.settings.cache }
          source := source
          captures := { rules := setup.settings.captureRules }
          clock := clock }
      let (engine, ()) := engine.serve ⟨none, introduction r⟩
      .ok { service := ⟨setup, source.name⟩, engine := { engine with health := engine.health.setReady true } }

end GridLoad
