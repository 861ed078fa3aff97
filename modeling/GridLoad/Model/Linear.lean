import GridLoad.Model.Estimator
import GridLoad.Model.Stored
import GridLoad.Text.Quoted

/-!
Linear models: an intercept and one coefficient for each feature of the schema.
-/

set_option autoImplicit false

namespace GridLoad

structure LinearArtifact where
  format : String
  intercept : Float
  coefficients : List Float
  deriving DecidableEq

namespace LinearArtifact

def knownFormat : String := "linear-v1"

def toJson (a : LinearArtifact) : Json :=
  .record [("format", .str a.format), ("intercept", .float a.intercept),
    ("coefficients", .array (a.coefficients.map .float))]

-- Unknown fields are refused.
def ofJson? : Json.Decoder LinearArtifact := fun j => do
  let r ← Json.toStrictRecord? ["format", "intercept", "coefficients"] j
  let format ← r.required "format" Json.toText?
  let intercept ← r.required "intercept" Json.toFloat?
  let coefficients ← r.required "coefficients" (Json.toList? Json.toFloat?)
  some ⟨format, intercept, coefficients⟩

end LinearArtifact

namespace Linear

def value {α : Type} [Add α] [Mul α] [Neg α] [OfNat α 0] (intercept : α) (coefficients inputs : List α) : α :=
  intercept + weightedTotal (coefficients.zip inputs)

def estimate (intercept : Float) (coefficients inputs : List Float) : Except String Float :=
  if inputs.length = coefficients.length then .ok (value intercept coefficients inputs)
  else .error (Model.wrongCount coefficients.length inputs.length)

def model (intercept : Float) (coefficients : List Float) (metadata : Metadata) : Except String Model :=
  if coefficients.length ≠ metadata.features.length then
    .error ("model has " ++ toString coefficients.length ++ " coefficients but schema declares " ++
      toString metadata.features.length ++ " features")
  else if !intercept.isFinite || coefficients.any (!·.isFinite) then
    .error "model contains non-finite parameters"
  else .ok ⟨metadata, estimate intercept coefficients⟩

def ofArtifact (a : LinearArtifact) (metadata : Metadata) : Except String Model :=
  if a.format ≠ LinearArtifact.knownFormat then
    .error ("unsupported linear artifact format " ++ Text.quoted a.format)
  else model a.intercept a.coefficients metadata

def ofBytes (bytes : List UInt8) (metadata : Metadata) : Except String Model :=
  match (Json.ofBytes? bytes).bind LinearArtifact.ofJson? with
  | some artifact => ofArtifact artifact metadata
  | none => .error ("Failed to parse linear artifact: " ++ unreadable)

end Linear

end GridLoad
