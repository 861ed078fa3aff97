import GridLoad.Model.Weights
import GridLoad.Time.Written

/-!
What is known of a model from its training: the features it takes in order, the horizons it covers and how
far it was off on validation data. `validate` tells the first thing wrong with it.
-/

set_option autoImplicit false

namespace GridLoad

open GridLoad.Time (Timestamp)

structure Feature where
  name : String
  mean : Float := 0
  std : Float := 1
  least : Option Float := none
  greatest : Option Float := none
  deriving DecidableEq

-- Horizons in hours, both ends included.
structure HorizonRange where
  least : Nat
  greatest : Nat
  deriving DecidableEq

def HorizonRange.contains (r : HorizonRange) (hours : Nat) : Bool :=
  r.least ≤ hours && hours ≤ r.greatest

structure Residuals where
  std : Float
  referenceHours : Nat := 1
  measured : Table Nat Float := .empty
  mape : Option Float := none
  samples : Option Nat := none
  deriving DecidableEq

-- A measured deviation where there is one, else growth with the square root of the horizon.
def Residuals.stdAt (r : Residuals) (hours : Nat) : Float :=
  match r.measured.get? hours with
  | some std => std
  | none => r.std * (Float.ofNat (max hours 1) / Float.ofNat r.referenceHours).sqrt

structure Metadata where
  schemaVersion : Nat
  modelVersion : String
  zone : String
  variant : Variant
  features : List Feature
  horizon : HorizonRange
  residuals : Residuals
  sha256 : Option String := none
  trainedAt : Option Timestamp := none
  deriving DecidableEq

structure Manifest where
  weights : Weights := Weights.standard
  displayName : Option String := none
  region : Option String := none
  climateZone : Option String := none
  deriving DecidableEq

instance : Inhabited Manifest := ⟨{}⟩

def Feature.validate (f : Feature) : Except String Unit := do
  if !(f.std.isFinite && f.std > 0) || !f.mean.isFinite then
    throw ("invalid scaling for feature " ++ f.name)
  match f.least, f.greatest with
  | some least, some greatest =>
      if least.isNaN || greatest.isNaN || least > greatest then
        throw ("invalid plausible range " ++ Decimal.spoken.write least ++ "..=" ++
          Decimal.spoken.write greatest ++ " for feature " ++ f.name)
  | _, _ => pure ()

def validStd (std : Float) : Bool := std.isFinite && 0 ≤ std

def Residuals.validate (r : Residuals) : Except String Unit := do
  if !validStd r.std then throw "invalid residual standard deviation"
  r.measured.entries.forM fun e =>
    if validStd e.2 then pure ()
    else throw ("invalid residual standard deviation at " ++ toString e.1 ++ "h")
  if r.referenceHours = 0 then throw "residual reference horizon must be at least 1h"

namespace Metadata

def knownSchema : Nat := 1

/-- The first thing wrong with metadata that is stored for a zone and variant. -/
def validate (m : Metadata) (zone : String) (variant : Variant) : Except String Unit := do
  if m.schemaVersion ≠ knownSchema then
    throw ("unsupported metadata schema version " ++ toString m.schemaVersion ++
      " (expected " ++ toString knownSchema ++ ")")
  if m.zone ≠ zone then
    throw ("artifact belongs to zone " ++ m.zone ++ " but is stored under " ++ zone)
  if m.variant ≠ variant then
    throw ("artifact declares variant " ++ m.variant.name ++ " but is stored as " ++ variant.name)
  if m.features.isEmpty then throw "feature schema is empty"
  m.features.forM Feature.validate
  if m.horizon.least > m.horizon.greatest then
    throw ("invalid horizon range " ++ toString m.horizon.least ++ "..=" ++ toString m.horizon.greatest)
  m.residuals.validate

end Metadata

end GridLoad
