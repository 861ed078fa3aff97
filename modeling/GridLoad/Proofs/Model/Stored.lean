import GridLoad.Model.Linear
import GridLoad.Proofs.Json.Decoded

/-!
Metadata, manifests and linear models are read back from what is stored of them.
-/

set_option autoImplicit false

namespace GridLoad

open Json
open GridLoad.Time (Timestamp)

-- An instant that is read for its text.
def Time.Timestamp.Storable (t : Timestamp) : Prop := Timestamp.ofText? t.text = some t

theorem timestamp_keeps (levels : Nat) {t : Timestamp} (storable : t.Storable) :
    Keeps toTimestamp? levels (timestampJson t) t := by
  refine ⟨str_sound levels t.text, ?_⟩
  have text : toText? (timestampJson t) = some t.text := escape_means t.text
  simp only [toTimestamp?, text, Option.bind_eq_bind, Option.bind_some]
  exact storable

theorem variant_keeps (levels : Nat) (nothing : Json → Bool) (v : Variant) :
    Keeps (Variant.ofJson? nothing) levels v.toJson v := by
  refine ⟨str_sound levels v.name, ?_⟩
  have name : toName? nothing v.toJson = some v.name := escape_means v.name
  simp only [Variant.ofJson?, toOneOf?, name, Option.bind_eq_bind, Option.bind_some]
  cases v <;> decide

-- What documents of models may hold: doubles and instants that are read for their texts, and numbers that fit their words.
structure Feature.Storable (f : Feature) : Prop where
  mean : Json.Storable f.mean
  std : Json.Storable f.std
  least : ∀ x, f.least = some x → Json.Storable x
  greatest : ∀ x, f.greatest = some x → Json.Storable x

structure HorizonRange.Storable (r : HorizonRange) : Prop where
  least : r.least < wordLimit 32
  greatest : r.greatest < wordLimit 32

structure Residuals.Storable (r : Residuals) : Prop where
  std : Json.Storable r.std
  referenceHours : r.referenceHours < wordLimit 32
  hours : ∀ e ∈ r.measured.entries, e.1 < wordLimit 32
  measured : ∀ e ∈ r.measured.entries, Json.Storable e.2
  mape : ∀ x, r.mape = some x → Json.Storable x
  samples : ∀ n, r.samples = some n → n < wordLimit 64

structure Metadata.Storable (m : Metadata) : Prop where
  schemaVersion : m.schemaVersion < wordLimit 32
  features : ∀ f ∈ m.features, f.Storable
  horizon : m.horizon.Storable
  residuals : m.residuals.Storable
  trainedAt : ∀ t, m.trainedAt = some t → t.Storable

structure Weights.Storable (w : Weights) : Prop where
  baseline : Json.Storable w.baseline
  enhanced : Json.Storable w.enhanced

def Manifest.Storable (m : Manifest) : Prop := m.weights.Storable

structure LinearArtifact.Storable (a : LinearArtifact) : Prop where
  intercept : Json.Storable a.intercept
  coefficients : ∀ x ∈ a.coefficients, Json.Storable x

theorem feature_keeps (levels : Nat) {f : Feature} (storable : f.Storable) :
    Keeps Feature.ofJson? (levels + 1) f.toJson f := by
  have name := text_keeps levels f.name
  have mean := float_keeps levels storable.mean
  have std := float_keeps levels storable.std
  have least := option_keeps rfl fun x given => float_keeps levels (storable.least x given)
  have greatest := option_keeps rfl fun x given => float_keeps levels (storable.greatest x given)
  refine record_keeps ?_ rfl (by decide) ?_
  · simp [name.sound, mean.sound, std.sound, least.sound, greatest.sound]
  · simp [Record.required, Record.optional, Record.defaulted, name.read, mean.read, std.read, least.read,
      greatest.read]

theorem horizon_range_keeps (levels : Nat) {r : HorizonRange} (storable : r.Storable) :
    Keeps HorizonRange.ofJson? (levels + 1) r.toJson r := by
  have least := word_keeps levels storable.least (by decide)
  have greatest := word_keeps levels storable.greatest (by decide)
  refine record_keeps ?_ rfl (by decide) ?_
  · simp [least.sound, greatest.sound]
  · simp [Record.required, least.read, greatest.read]

theorem residuals_keeps (levels : Nat) {r : Residuals} (storable : r.Storable) :
    Keeps Residuals.ofJson? (levels + 2) r.toJson r := by
  have std := float_keeps (levels + 1) storable.std
  have reference := word_keeps (levels + 1) storable.referenceHours (by decide)
  have measured := hours_keeps storable.hours fun e member => float_keeps levels (storable.measured e member)
  have mape := option_keeps rfl fun x given => float_keeps (levels + 1) (storable.mape x given)
  have samples := option_keeps rfl fun n given => word_keeps (levels + 1) (storable.samples n given) (by decide)
  refine record_keeps ?_ rfl (by decide) ?_
  · simp [std.sound, reference.sound, measured.sound, mape.sound, samples.sound]
  · simp [Record.required, Record.optional, Record.defaulted, std.read, reference.read, measured.read, mape.read,
      samples.read]

theorem metadata_keeps {m : Metadata} (storable : m.Storable) : Keeps Metadata.ofJson? 3 m.toJson m := by
  have schema := word_keeps 2 storable.schemaVersion (by decide)
  have version := text_keeps 2 m.modelVersion
  have zone := text_keeps 2 m.zone
  have variant := variant_keeps 2 isNull m.variant
  have features := list_keeps fun f member => feature_keeps 0 (storable.features f member)
  have horizon := horizon_range_keeps 1 storable.horizon
  have residuals := residuals_keeps 0 storable.residuals
  have digest := text_option_keeps 2 m.sha256
  have trained := option_keeps rfl fun t given => timestamp_keeps 2 (storable.trainedAt t given)
  refine record_keeps ?_ rfl (by decide) ?_
  · simp [schema.sound, version.sound, zone.sound, variant.sound, features.sound, horizon.sound, residuals.sound,
      digest.sound, trained.sound]
  · simp [Record.required, Record.optional, Record.defaulted, schema.read, version.read, zone.read, variant.read,
      features.read, horizon.read, residuals.read, digest.read, trained.read]

theorem weights_keeps (levels : Nat) {w : Weights} (storable : w.Storable) :
    Keeps Weights.ofJson? (levels + 1) w.toJson w := by
  have version := text_keeps levels w.version
  have baseline := float_keeps levels storable.baseline
  have enhanced := float_keeps levels storable.enhanced
  refine record_keeps ?_ rfl (by decide) ?_
  · simp [version.sound, baseline.sound, enhanced.sound]
  · simp [Record.required, version.read, baseline.read, enhanced.read]

theorem manifest_keeps {m : Manifest} (storable : m.Storable) : Keeps Manifest.ofJson? 2 m.toJson m := by
  have weights := weights_keeps 0 storable
  have name := text_option_keeps 1 m.displayName
  have region := text_option_keeps 1 m.region
  have climate := text_option_keeps 1 m.climateZone
  refine record_keeps ?_ rfl (by decide) ?_
  · simp [weights.sound, name.sound, region.sound, climate.sound]
  · simp [Record.optional, Record.defaulted, weights.read, name.read, region.read, climate.read]

-- A record that refuses unknown fields has none.
theorem linear_keeps {a : LinearArtifact} (storable : a.Storable) : Keeps LinearArtifact.ofJson? 2 a.toJson a := by
  have format := text_keeps 1 a.format
  have intercept := float_keeps 1 storable.intercept
  have coefficients := list_keeps fun x member => float_keeps 0 (storable.coefficients x member)
  refine record_keeps ?_ rfl (by decide) ?_
  · simp [format.sound, intercept.sound, coefficients.sound]
  · simp [Record.required, format.read, intercept.read, coefficients.read]

end GridLoad
