import GridLoad.Forecast.Stored
import GridLoad.Proofs.Feature.Stored
import GridLoad.Sample

/-!
Forecasts are read back from what is served of them, whatever they were made of; and so is all else that is stored.
-/

set_option autoImplicit false

namespace GridLoad

open Json
open GridLoad.Time (Timestamp)

structure ModelShare.Storable (s : ModelShare) : Prop where
  weight : Json.Storable s.weight
  estimate : Json.Storable s.estimate
  residualStd : Json.Storable s.residualStd

structure MemberShare.Storable (s : MemberShare) : Prop where
  declaredWeight : Json.Storable s.declaredWeight
  point : Json.Storable s.point
  lower : Json.Storable s.lower
  upper : Json.Storable s.upper

inductive Provenance.Storable : Provenance → Prop
  | models {weightsVersion : String} {generation : Nat} {shares : List ModelShare}
      (fits : generation < wordLimit 64) (each : ∀ s ∈ shares, s.Storable) :
      Storable (.models weightsVersion generation shares)
  | members {combination : String} {shares : List MemberShare} (each : ∀ s ∈ shares, s.Storable) :
      Storable (.members combination shares)

structure Prediction.Storable (p : Prediction) : Prop where
  horizon : p.horizon < wordLimit 32
  point : Json.Storable p.point
  lower : Json.Storable p.lower
  upper : Json.Storable p.upper
  level : Json.Storable p.level
  generatedAt : p.generatedAt.Storable
  source : p.source.Storable

theorem model_share_keeps (levels : Nat) {s : ModelShare} (storable : s.Storable) :
    Keeps ModelShare.ofJson? (levels + 1) s.toJson s := by
  have variant := variant_keeps levels isVoid s.variant
  have version := text_keeps levels s.modelVersion
  have weight := float_keeps levels storable.weight
  have estimate := float_keeps levels storable.estimate
  have residual := float_keeps levels storable.residualStd
  refine record_keeps ?_ rfl (by decide) ?_
  · simp [variant.sound, version.sound, weight.sound, estimate.sound, residual.sound]
  · simp [Record.required, variant.read, version.read, weight.read, estimate.read, residual.read]

theorem member_share_keeps (levels : Nat) {s : MemberShare} (storable : s.Storable) :
    Keeps MemberShare.ofJson? (levels + 2) s.toJson s := by
  have zone := text_keeps (levels + 1) s.zone
  have weight := float_keeps (levels + 1) storable.declaredWeight
  have point := float_keeps (levels + 1) storable.point
  have lower := float_keeps (levels + 1) storable.lower
  have upper := float_keeps (levels + 1) storable.upper
  have versions : Keeps (toList? toText?) (levels + 1) (strings s.modelVersions) s.modelVersions :=
    list_keeps fun version _ => text_keeps levels version
  refine record_keeps ?_ rfl (by decide) ?_
  · simp [zone.sound, weight.sound, point.sound, lower.sound, upper.sound, versions.sound]
  · simp [Record.required, zone.read, weight.read, point.read, lower.read, upper.read, versions.read]

-- The source of a forecast is held whole before its kind is known, within the levels of the forecast itself.
theorem provenance_keeps {source : Provenance} (storable : source.Storable) :
    Keeps (Provenance.ofJson? 1) 4 source.toJson source := by
  cases storable with
  | @models weightsVersion generation shares fits each =>
      have version := text_keeps 3 weightsVersion
      have number := word_keeps 3 fits (by decide)
      have models := list_keeps fun s member => model_share_keeps 1 (each s member)
      have sound : Sound 4 (Provenance.models weightsVersion generation shares).toJson :=
        record_sound (by simp [str_sound, version.sound, number.sound, models.sound])
      refine ⟨sound, ?_⟩
      unfold Provenance.ofJson? Provenance.toJson
      rw [tagged_read sound (by decide) (by simp)]
      simp [toRecord?, record_read, Record.required, version.read, number.read, models.read]
  | @members combination shares each =>
      have label := text_keeps 3 combination
      have members := list_keeps fun s member => member_share_keeps 0 (each s member)
      have sound : Sound 4 (Provenance.members combination shares).toJson :=
        record_sound (by simp [str_sound, label.sound, members.sound])
      refine ⟨sound, ?_⟩
      unfold Provenance.ofJson? Provenance.toJson
      rw [tagged_read sound (by decide) (by simp)]
      simp [toRecord?, record_read, Record.required, label.read, members.read]

theorem prediction_keeps {p : Prediction} (storable : p.Storable) : Keeps Prediction.ofJson? 5 p.toJson p := by
  have zone := text_keeps 4 p.zone
  have horizon := word_keeps 4 storable.horizon (by decide)
  have point := float_keeps 4 storable.point
  have lower := float_keeps 4 storable.lower
  have upper := float_keeps 4 storable.upper
  have level := float_keeps 4 storable.level
  have token := text_keeps 4 p.token
  have generated := timestamp_keeps 4 storable.generatedAt
  have source := provenance_keeps storable.source
  refine record_keeps ?_ rfl (by decide) ?_
  · simp [zone.sound, horizon.sound, point.sound, lower.sound, upper.sound, level.sound, token.sound, generated.sound,
      source.sound]
  · simp [Record.required, zone.read, horizon.read, point.read, lower.read, upper.read, level.read, token.read,
      generated.read, source.read]

/-- Whatever is stored or served is read back as it was, each double to the bit: snapshots, metadata, manifests, linear
models, and forecasts of zones and of virtual zones. A snapshot that is read from the file it was written to bears the
same token. All doubles are finite, they and the instants are what is read for their texts, and whole numbers fit the
words that they are stored in. -/
theorem stored_read_back :
    (∀ s : Snapshot, s.Storable → ReadBack Snapshot.ofJson? s.toJson s ∧
      ∀ files path, files.read? path = .ok (Text.toBytes s.canonicalText) →
        (readSnapshot files path).map NamedSnapshot.of = .ok (.of s)) ∧
    (∀ m : Metadata, m.Storable → ReadBack Metadata.ofJson? m.toJson m) ∧
    (∀ m : Manifest, m.Storable → ReadBack Manifest.ofJson? m.toJson m) ∧
    (∀ a : LinearArtifact, a.Storable → ReadBack LinearArtifact.ofJson? a.toJson a) ∧
    ∀ p : Prediction, p.Storable → ReadBack Prediction.ofJson? p.toJson p := by
  refine ⟨fun s storable => ⟨keeps_read_back (snapshot_keeps storable), ?_⟩,
    fun m storable => keeps_read_back (metadata_keeps storable),
    fun m storable => keeps_read_back (manifest_keeps storable),
    fun a storable => keeps_read_back (linear_keeps storable),
    fun p storable => keeps_read_back (prediction_keeps storable)⟩
  intro files path written
  rw [snapshot_file_read storable written]
  rfl

namespace Sample

/-! One document of each kind: calm air is a negative zero, and the number of the registry is the greatest word. -/

def noon : Timestamp := ⟨1720620000, 0⟩

def calm : Snapshot where
  observedAt := noon
  zones := Table.ofList [("SCE", ⟨Table.ofList [("temperature_f", 88.5), ("wind_ms", -0.0)],
    Table.ofList [(3, Table.ofList [("temperature_f", 91)])]⟩)]

def trained : Metadata := metadata "SCE" .enhanced defaultFeatures

def line : LinearArtifact := ⟨LinearArtifact.knownFormat, -0.0, [30.25]⟩

def modelPart : ModelShare := ⟨.enhanced, "1", 1, 19631, 100⟩

def alone : Prediction :=
  { prediction "SCE" 24 19631 196 "" noon with source := .models "v1" 18446744073709551615 [modelPart] }

def whole : Prediction :=
  { prediction "LA_METRO" 24 24880 220 "" noon with source := .members "sum" [alone.memberShare 0.79] }

theorem documents_evaluated :
    noon.Storable ∧
    (∀ e ∈ calm.zones.entries, (∀ v ∈ e.2.current.entries, Json.Storable v.2) ∧
      (∀ f ∈ e.2.forecast.entries, f.1 < wordLimit 32) ∧
      ∀ f ∈ e.2.forecast.entries, ∀ v ∈ f.2.entries, Json.Storable v.2) ∧
    ((∀ f ∈ trained.features, Json.Storable f.mean ∧ Json.Storable f.std ∧ f.least = none ∧ f.greatest = none) ∧
      Json.Storable trained.residuals.std) ∧
    (Json.Storable Weights.standard.baseline ∧ Json.Storable Weights.standard.enhanced) ∧
    (Json.Storable line.intercept ∧ ∀ x ∈ line.coefficients, Json.Storable x) ∧
    (∀ p ∈ [alone, whole], Json.Storable p.point ∧ Json.Storable p.lower ∧ Json.Storable p.upper ∧
      Json.Storable p.level) ∧
    Json.Storable modelPart.weight ∧ Json.Storable modelPart.residualStd ∧ Json.Storable 0.79 := by
  unfold Time.Timestamp.Storable
  decide +kernel

theorem documents_read_back :
    ReadBack Snapshot.ofJson? calm.toJson calm ∧ ReadBack Metadata.ofJson? trained.toJson trained ∧
    ReadBack Manifest.ofJson? ({} : Manifest).toJson {} ∧ ReadBack LinearArtifact.ofJson? line.toJson line ∧
    ReadBack Prediction.ofJson? alone.toJson alone ∧ ReadBack Prediction.ofJson? whole.toJson whole := by
  obtain ⟨snapshots, metadata, manifests, models, forecasts⟩ := stored_read_back
  obtain ⟨time, zones, ⟨features, std⟩, ⟨baseline, enhanced⟩, ⟨intercept, coefficients⟩, totals, weight, residual,
    declared⟩ := documents_evaluated
  obtain ⟨point, lower, upper, level⟩ := totals alone (by simp)
  obtain ⟨sum, least, greatest, level'⟩ := totals whole (by simp)
  refine ⟨(snapshots calm ⟨time, fun e member => ?_⟩).1, ?_, manifests {} ⟨baseline, enhanced⟩,
    models line ⟨intercept, coefficients⟩, ?_, ?_⟩
  · obtain ⟨current, hours, forecast⟩ := zones e member
    exact ⟨current, hours, forecast⟩
  · refine metadata trained ⟨by decide, fun f member => ?_, ⟨by decide, by decide⟩, ?_, nofun⟩
    · obtain ⟨mean, scale, low, high⟩ := features f member
      exact ⟨mean, scale, by simp [low], by simp [high]⟩
    · exact ⟨std, by decide, nofun, nofun, nofun, nofun⟩
  · refine forecasts alone ⟨by decide, point, lower, upper, level, time, .models (by decide) fun s member => ?_⟩
    obtain rfl := List.mem_singleton.mp member
    exact ⟨weight, point, residual⟩
  · refine forecasts whole ⟨by decide, sum, least, greatest, level', time, .members fun s member => ?_⟩
    obtain rfl := List.mem_singleton.mp member
    exact ⟨declared, point, lower, upper⟩

-- A temperature that is not what is read for its own text: the snapshot that is read bears another token.
def unread : Snapshot where
  observedAt := noon
  zones := Table.ofList [("SCE", ⟨Table.ofList [("temperature_f", 62.089999999999996)], .empty⟩)]

theorem read_otherwise : ((ofText? unread.canonicalText).bind Snapshot.ofJson?).any
    (fun s => s.canonicalText ≠ unread.canonicalText) = true := by
  decide +kernel

end Sample

end GridLoad
