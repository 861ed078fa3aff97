import GridLoad.Model.Metadata

/-!
Documents of models and zones: metadata sidecars and zone manifests.
-/

set_option autoImplicit false

namespace GridLoad

open GridLoad.Time (Timestamp)

def toTimestamp? : Json.Decoder Timestamp := fun j => do
  Timestamp.ofText? (← Json.toText? j)

def timestampJson (t : Timestamp) : Json := .str t.text

def hoursJson {α : Type} (item : α → Json) (t : Table Nat α) : Json :=
  .record (t.entries.map fun e => (toString e.1, item e.2))

def namesJson {α : Type} (item : α → Json) (t : Table String α) : Json :=
  .record (t.entries.map fun e => (e.1, item e.2))

def Feature.toJson (f : Feature) : Json :=
  .record [("name", .str f.name), ("mean", .float f.mean), ("std", .float f.std),
    ("min", .option .float f.least), ("max", .option .float f.greatest)]

def Feature.ofJson? : Json.Decoder Feature := fun j => do
  let r ← Json.toRecord? ["name", "mean", "std", "min", "max"] j
  let name ← r.required "name" Json.toText?
  let mean ← r.defaulted "mean" 0 Json.toFloat?
  let std ← r.defaulted "std" 1 Json.toFloat?
  let least ← r.optional "min" Json.toFloat?
  let greatest ← r.optional "max" Json.toFloat?
  some ⟨name, mean, std, least, greatest⟩

def HorizonRange.toJson (r : HorizonRange) : Json :=
  .record [("min_hours", .nat r.least), ("max_hours", .nat r.greatest)]

def HorizonRange.ofJson? : Json.Decoder HorizonRange := fun j => do
  let r ← Json.toRecord? ["min_hours", "max_hours"] j
  let least ← r.required "min_hours" (Json.toWord? 32)
  let greatest ← r.required "max_hours" (Json.toWord? 32)
  some ⟨least, greatest⟩

def Residuals.toJson (r : Residuals) : Json :=
  .record [("std_mw", .float r.std), ("reference_horizon_hours", .nat r.referenceHours),
    ("by_horizon", hoursJson .float r.measured), ("mape", .option .float r.mape),
    ("samples", .option .nat r.samples)]

def Residuals.ofJson? : Json.Decoder Residuals := fun j => do
  let r ← Json.toRecord? ["std_mw", "reference_horizon_hours", "by_horizon", "mape", "samples"] j
  let std ← r.required "std_mw" Json.toFloat?
  let referenceHours ← r.defaulted "reference_horizon_hours" 1 (Json.toWord? 32)
  let measured ← r.defaulted "by_horizon" .empty (Json.toTable? Json.hoursKey? Json.toFloat?)
  let mape ← r.optional "mape" Json.toFloat?
  let samples ← r.optional "samples" (Json.toWord? 64)
  some ⟨std, referenceHours, measured, mape, samples⟩

def Metadata.toJson (m : Metadata) : Json :=
  .record [("schema_version", .nat m.schemaVersion), ("model_version", .str m.modelVersion),
    ("zone", .str m.zone), ("variant", m.variant.toJson),
    ("features", .array (m.features.map Feature.toJson)), ("horizon", m.horizon.toJson),
    ("residuals", m.residuals.toJson), ("sha256", .option .str m.sha256),
    ("trained_at", .option timestampJson m.trainedAt)]

def Metadata.ofJson? : Json.Decoder Metadata := fun j => do
  let r ← Json.toRecord? ["schema_version", "model_version", "zone", "variant", "features", "horizon",
    "residuals", "sha256", "trained_at"] j
  let schemaVersion ← r.required "schema_version" (Json.toWord? 32)
  let modelVersion ← r.required "model_version" Json.toText?
  let zone ← r.required "zone" Json.toText?
  let variant ← r.required "variant" Variant.ofJson?
  let features ← r.required "features" (Json.toList? Feature.ofJson?)
  let horizon ← r.required "horizon" HorizonRange.ofJson?
  let residuals ← r.required "residuals" Residuals.ofJson?
  let sha256 ← r.optional "sha256" Json.toText?
  let trainedAt ← r.optional "trained_at" toTimestamp?
  some ⟨schemaVersion, modelVersion, zone, variant, features, horizon, residuals, sha256, trainedAt⟩

def Manifest.toJson (m : Manifest) : Json :=
  .record [("ensemble", m.weights.toJson), ("display_name", .option .str m.displayName),
    ("region", .option .str m.region), ("climate_zone", .option .str m.climateZone)]

def Manifest.ofJson? : Json.Decoder Manifest := fun j => do
  let r ← Json.toRecord? ["ensemble", "display_name", "region", "climate_zone"] j
  let weights ← r.defaulted "ensemble" Weights.standard Weights.ofJson?
  let displayName ← r.optional "display_name" Json.toText?
  let region ← r.optional "region" Json.toText?
  let climateZone ← r.optional "climate_zone" Json.toText?
  some ⟨weights, displayName, region, climateZone⟩

end GridLoad
