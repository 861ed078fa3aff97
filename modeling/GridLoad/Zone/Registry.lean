import GridLoad.Files
import GridLoad.Zone.Entry

/-!
The zones of one generation and their models. A registry is put together from steps; for each zone and
variant the last step that concerns it decides.
-/

set_option autoImplicit false

namespace GridLoad

structure Registry where
  generation : Nat
  root : Option Path := none
  zones : Table String ZoneEntry := .empty

instance : Inhabited Registry := ⟨{ generation := 0 }⟩

namespace Registry

inductive Step where
  | touch (zone : String)
  | manifest (zone : String) (manifest : Manifest)
  | model (zone : String) (variant : Variant) (model : Model)
  | reject (zone : String) (variant : Variant) (reason : String)

def Step.zone : Step → String
  | .touch zone => zone
  | .manifest zone _ => zone
  | .model zone _ _ => zone
  | .reject zone _ _ => zone

def Step.change : Step → ZoneEntry → ZoneEntry
  | .touch _, e => e
  | .manifest _ declared, e => { e with manifest := declared }
  | .model _ variant m, e => e.set variant (.loaded m)
  | .reject _ variant reason, e => e.set variant (.rejected reason)

def apply (zones : Table String ZoneEntry) (step : Step) : Table String ZoneEntry :=
  zones.modify step.zone {} step.change

def ofSteps (generation : Nat) (steps : List Step) : Registry where
  generation := generation
  zones := steps.foldl apply .empty

def find? (r : Registry) (zone : String) : Option ZoneEntry := r.zones.get? zone

def contains (r : Registry) (zone : String) : Bool := r.zones.contains zone

def load (r : Registry) (zone : String) : Except Failure ZoneEntry :=
  match r.find? zone with
  | none => .error (.noModel zone)
  | some e => if e.isAvailable then .ok e else .error (e.unavailable zone)

def availableZones (r : Registry) : List String :=
  (r.zones.filter fun _ e => e.isAvailable).keys

def unavailableZones (r : Registry) : List String :=
  (r.zones.filter fun _ e => !e.isAvailable).keys

end Registry

end GridLoad
