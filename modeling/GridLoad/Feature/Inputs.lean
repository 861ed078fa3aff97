import GridLoad.Feature.Snapshot
import GridLoad.Forecast.Failure
import GridLoad.Model.Metadata

/-!
Model inputs from a snapshot: each feature's raw value, checked and then standardized as in training.
Nothing is filled in; a value that is missing or implausible fails the request.
-/

set_option autoImplicit false

namespace GridLoad

open GridLoad.Time (Timestamp)

-- Features that follow from the target time instead of being measured.
def derivedValue? (name : String) (hours : Nat) (target : Timestamp) : Option Float :=
  if name = "horizon_hours" then some (Float.ofNat hours)
  else if name = "target_hour_of_day" then some (Float.ofNat target.hourOfDay)
  else if name = "target_day_of_week" then some (Float.ofNat target.weekday)
  else none

inductive FeatureFault where
  | missing (name : String) (hours : Nat)
  | notFinite (name : String)
  | belowLeast (name : String) (value least : Float)
  | aboveGreatest (name : String) (value greatest : Float)
  deriving DecidableEq

def FeatureFault.message : FeatureFault → String
  | .missing name hours => "missing required feature " ++ name ++ " for +" ++ toString hours ++ "h"
  | .notFinite name => "feature " ++ name ++ " is not a finite number"
  | .belowLeast name value least =>
      "feature " ++ name ++ " = " ++ Decimal.spoken.write value ++ " is below plausible minimum " ++
        Decimal.spoken.write least
  | .aboveGreatest name value greatest =>
      "feature " ++ name ++ " = " ++ Decimal.spoken.write value ++ " is above plausible maximum " ++
        Decimal.spoken.write greatest

def Feature.check (f : Feature) (value : Float) : Except FeatureFault Float :=
  if !value.isFinite then .error (.notFinite f.name)
  else
    match f.least.filter (value < ·), f.greatest.filter (value > ·) with
    | some least, _ => .error (.belowLeast f.name value least)
    | none, some greatest => .error (.aboveGreatest f.name value greatest)
    | none, none => .ok value

def refuse (zone : String) (fault : FeatureFault) : Halt :=
  .failed (.invalidFeatures zone fault.message)

/-- A feature's value for a zone and horizon, as it was measured or forecast. -/
def rawValue (zone : String) (f : Feature) (s : Snapshot) (hours : Nat) : Outcome Float :=
  match s.observedAt.addHours? hours with
  | none => .error .pastCalendar
  | some target =>
      let found := match derivedValue? f.name hours target with
        | some value => some value
        | none => (s.zone? zone).bind (·.lookup f.name hours)
      match found with
      | none => .error (refuse zone (.missing f.name hours))
      | some value => (f.check value).mapError (refuse zone)

def Feature.standardize (f : Feature) (value : Float) : Float := (value - f.mean) / f.std

/-- Standardized inputs in the order of the schema. -/
def modelInputs (zone : String) (schema : List Feature) (s : Snapshot) (hours : Nat) :
    Outcome (List Float) :=
  schema.mapM fun f => (rawValue zone f s hours).map f.standardize

end GridLoad
