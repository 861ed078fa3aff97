import GridLoad.Feature.Source
import GridLoad.Proofs.Model.Stored

/-!
Snapshots are read back from what is stored of them, and from the files that they are written to.
-/

set_option autoImplicit false

namespace GridLoad

open Json

structure ZoneFeatures.Storable (f : ZoneFeatures) : Prop where
  current : ∀ e ∈ f.current.entries, Json.Storable e.2
  hours : ∀ e ∈ f.forecast.entries, e.1 < wordLimit 32
  forecast : ∀ e ∈ f.forecast.entries, ∀ v ∈ e.2.entries, Json.Storable v.2

structure Snapshot.Storable (s : Snapshot) : Prop where
  observedAt : s.observedAt.Storable
  zones : ∀ e ∈ s.zones.entries, e.2.Storable

theorem values_keeps (levels : Nat) {values : Values} (storable : ∀ e ∈ values.entries, Json.Storable e.2) :
    Keeps toValues? (levels + 1) (valuesJson values) values :=
  names_keeps fun e member => float_keeps levels (storable e member)

theorem zone_features_keeps {f : ZoneFeatures} (storable : f.Storable) : Keeps ZoneFeatures.ofJson? 3 f.toJson f := by
  have current := values_keeps 1 storable.current
  have forecast := hours_keeps storable.hours fun e member => values_keeps 0 (storable.forecast e member)
  refine record_keeps ?_ rfl (by decide) ?_
  · simp [current.sound, forecast.sound]
  · simp [Record.defaulted, current.read, forecast.read]

theorem snapshot_keeps {s : Snapshot} (storable : s.Storable) : Keeps Snapshot.ofJson? 5 s.toJson s := by
  have observed := timestamp_keeps 4 storable.observedAt
  have zones := names_keeps fun e member => zone_features_keeps (storable.zones e member)
  refine record_keeps ?_ rfl (by decide) ?_
  · simp [observed.sound, zones.sound]
  · simp [Record.required, Record.defaulted, observed.read, zones.read]

theorem snapshot_file_read {s : Snapshot} (storable : s.Storable) {files : Files} {path : Path}
    (written : files.read? path = .ok (Text.toBytes s.canonicalText)) : readSnapshot files path = .ok s := by
  have read := (keeps_read_back (snapshot_keeps storable)).bytes
  unfold readSnapshot
  rw [written]
  simp only [Snapshot.canonicalText, read]

end GridLoad
