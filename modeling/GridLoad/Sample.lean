import GridLoad.Group.Catalog
import GridLoad.Model.Linear
import GridLoad.Text.Lowercase
import GridLoad.Zone.Registry
import GridLoad.Forecast.Prediction

/-!
A worked example: two zones with one model each, their features, and the virtual zone of both.
-/

set_option autoImplicit false

namespace GridLoad.Sample

open GridLoad.Time (Timestamp)

-- Metadata that pass every check: horizons of up to two days, residuals of 100 MW.
def metadata (zone : String) (variant : Variant) (features : List String) : Metadata where
  schemaVersion := Metadata.knownSchema
  modelVersion := Text.toLower zone ++ "-" ++ variant.name ++ "-2024.07.01"
  zone := zone
  variant := variant
  features := features.map fun name => { name := name }
  horizon := ⟨1, 48⟩
  residuals := { std := 100 }

def defaultFeatures : List String := ["temperature_f"]

def model (zone : String) (variant : Variant) (features : List String) (value : Float) : Model :=
  .constant (metadata zone variant features) value

def linearText (intercept : Float) (coefficients : List Float) : String :=
  (LinearArtifact.toJson ⟨LinearArtifact.knownFormat, intercept, coefficients⟩).text

def prediction (zone : String) (horizon : Nat) (point halfWidth : Float) (token : Token) (now : Timestamp) :
    Prediction where
  zone := zone
  horizon := horizon
  point := point
  lower := point - halfWidth
  upper := point + halfWidth
  level := 0.95
  token := token
  generatedAt := now
  source := .models "v1" 1 []

def group : Group := ⟨"LA_METRO", [⟨"SCE", 0.79⟩, ⟨"SP15", 0.21⟩]⟩

def catalog : Except Failure Catalog := Catalog.define [group]

def features (load temperature : Float) : ZoneFeatures where
  current := Table.ofList [("current_load_mw", load), ("temperature_f", temperature)]

def snapshot (observedAt : Timestamp) : Snapshot where
  observedAt := observedAt
  zones := Table.ofList [("SCE", features 18696 88), ("SP15", features 4999 84)]

def registry (generation : Nat) : Registry :=
  let inputs := ["current_load_mw", "temperature_f"]
  Registry.ofSteps generation
    [.model "SCE" .enhanced (model "SCE" .enhanced inputs 19631),
      .model "SP15" .enhanced (model "SP15" .enhanced inputs 5249)]

end GridLoad.Sample
