import GridLoad.Table
import GridLoad.Time.Timestamp

/-!
Feature snapshots: the weather and load values of all zones for one round of forecasts. `withOverrides`
replaces values for some zones; looking up in the result gives the overriding value wherever there is one.
-/

set_option autoImplicit false

namespace GridLoad

open GridLoad.Time (Timestamp)

abbrev Values := Table String Float

structure ZoneFeatures where
  current : Values := .empty
  forecast : Table Nat Values := .empty
  deriving DecidableEq, Inhabited

-- The forecast value for the horizon, or else the current value.
def ZoneFeatures.lookup (f : ZoneFeatures) (name : String) (hours : Nat) : Option Float :=
  match (f.forecast.get? hours).bind (·.get? name) with
  | some value => some value
  | none => f.current.get? name

-- Overriding a value makes the forecasts of that name void, too.
def ZoneFeatures.override (f : ZoneFeatures) (name : String) (value : Float) : ZoneFeatures where
  current := f.current.insert name value
  forecast := f.forecast.map fun _ values => values.erase name

def ZoneFeatures.overrideAll (f : ZoneFeatures) (overrides : Values) : ZoneFeatures :=
  overrides.entries.foldl (fun f e => f.override e.1 e.2) f

structure Snapshot where
  observedAt : Timestamp
  zones : Table String ZoneFeatures := .empty
  deriving DecidableEq

namespace Snapshot

def zone? (s : Snapshot) (zone : String) : Option ZoneFeatures := s.zones.get? zone

def overrideZone (s : Snapshot) (overrides : Values) (zone : String) : Snapshot :=
  { s with zones := s.zones.modify zone {} fun f => f.overrideAll overrides }

/-- The snapshot with `overrides` in the stead of the values of `zones`, which are entered where missing. -/
def withOverrides (s : Snapshot) (zones : List String) (overrides : Values) : Snapshot :=
  zones.foldl (fun s zone => s.overrideZone overrides zone) s

end Snapshot

end GridLoad
