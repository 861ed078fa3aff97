import GridLoad.Forecast.Prediction

/-!
Documents of forecasts. The source tells its kind, which may stand anywhere among its fields.
-/

set_option autoImplicit false

namespace GridLoad

def ModelShare.toJson (s : ModelShare) : Json :=
  .record [("variant", s.variant.toJson), ("model_version", .str s.modelVersion),
    ("weight", .float s.weight), ("estimate_mw", .float s.estimate),
    ("residual_std_mw", .float s.residualStd)]

def ModelShare.ofJson? : Json.Decoder ModelShare := fun j => do
  let r ← Json.toRecord? ["variant", "model_version", "weight", "estimate_mw", "residual_std_mw"] j
  let variant ← r.required "variant" (Variant.ofJson? Json.isVoid)
  let modelVersion ← r.required "model_version" Json.toText?
  let weight ← r.required "weight" Json.toFloat?
  let estimate ← r.required "estimate_mw" Json.toFloat?
  let residualStd ← r.required "residual_std_mw" Json.toFloat?
  some ⟨variant, modelVersion, weight, estimate, residualStd⟩

def MemberShare.toJson (s : MemberShare) : Json :=
  .record [("zone_id", .str s.zone), ("declared_weight", .float s.declaredWeight),
    ("point_estimate_mw", .float s.point), ("confidence_lower_mw", .float s.lower),
    ("confidence_upper_mw", .float s.upper), ("model_versions", .strings s.modelVersions)]

def MemberShare.ofJson? : Json.Decoder MemberShare := fun j => do
  let r ← Json.toRecord? ["zone_id", "declared_weight", "point_estimate_mw", "confidence_lower_mw",
    "confidence_upper_mw", "model_versions"] j
  let zone ← r.required "zone_id" Json.toText?
  let declaredWeight ← r.required "declared_weight" Json.toFloat?
  let point ← r.required "point_estimate_mw" Json.toFloat?
  let lower ← r.required "confidence_lower_mw" Json.toFloat?
  let upper ← r.required "confidence_upper_mw" Json.toFloat?
  let modelVersions ← r.required "model_versions" (Json.toList? Json.toText?)
  some ⟨zone, declaredWeight, point, lower, upper, modelVersions⟩

def Provenance.toJson : Provenance → Json
  | .models weightsVersion generation shares =>
      .record [("kind", .str "zone"), ("ensemble_version", .str weightsVersion),
        ("registry_generation", .nat generation), ("models", .array (shares.map ModelShare.toJson))]
  | .members combination shares =>
      .record [("kind", .str "composite"), ("combination", .str combination),
        ("constituents", .array (shares.map MemberShare.toJson))]

-- A source inside `outer` levels of other records.
def Provenance.ofJson? (outer : Nat) : Json.Decoder Provenance := fun j => do
  let (kind, fields) ← Json.toTagged? "kind" outer j
  if kind = "zone" then do
    let r ← Json.toRecord? ["ensemble_version", "registry_generation", "models"] fields
    let weightsVersion ← r.required "ensemble_version" Json.toText?
    let generation ← r.required "registry_generation" (Json.toWord? 64)
    let shares ← r.required "models" (Json.toList? ModelShare.ofJson?)
    some (.models weightsVersion generation shares)
  else if kind = "composite" then do
    let r ← Json.toRecord? ["combination", "constituents"] fields
    let combination ← r.required "combination" Json.toText?
    let shares ← r.required "constituents" (Json.toList? MemberShare.ofJson?)
    some (.members combination shares)
  else none

namespace Prediction

def toJson (p : Prediction) : Json :=
  .record [("zone_id", .str p.zone), ("horizon_hours", .nat p.horizon),
    ("point_estimate_mw", .float p.point), ("confidence_lower_mw", .float p.lower),
    ("confidence_upper_mw", .float p.upper), ("confidence_level", .float p.level),
    ("snapshot", .str p.token), ("generated_at", timestampJson p.generatedAt),
    ("source", p.source.toJson)]

def ofJson? : Json.Decoder Prediction := fun j => do
  let r ← Json.toRecord? ["zone_id", "horizon_hours", "point_estimate_mw", "confidence_lower_mw",
    "confidence_upper_mw", "confidence_level", "snapshot", "generated_at", "source"] j
  let zone ← r.required "zone_id" Json.toText?
  let horizon ← r.required "horizon_hours" (Json.toWord? 32)
  let point ← r.required "point_estimate_mw" Json.toFloat?
  let lower ← r.required "confidence_lower_mw" Json.toFloat?
  let upper ← r.required "confidence_upper_mw" Json.toFloat?
  let level ← r.required "confidence_level" Json.toFloat?
  let token ← r.required "snapshot" Json.toText?
  let generatedAt ← r.required "generated_at" toTimestamp?
  let source ← r.required "source" (Provenance.ofJson? 1)
  some ⟨zone, horizon, point, lower, upper, level, token, generatedAt, source⟩

end Prediction

end GridLoad
