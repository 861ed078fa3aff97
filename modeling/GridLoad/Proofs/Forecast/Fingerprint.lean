import GridLoad.Proofs.Forecast.SameText
import GridLoad.Sample

/-!
What the text that names a snapshot tells of it.
-/

set_option autoImplicit false

namespace GridLoad

open GridLoad.Time (Timestamp)

/-- Snapshots of one canonical text were observed at one instant, and have the same zones, names and hours; each value
of the one is that of the other, save where neither is finite. So they have one token, and no forecast for a zone tells
them apart. -/
theorem canonical_text_tells {s t : Snapshot} (same : s.canonicalText = t.canonicalText) :
    (s.observedAt.text = t.observedAt.text ∧
      (s.observedAt.Proper → t.observedAt.Proper → s.observedAt = t.observedAt)) ∧
    s.zones.Alike ZoneFeatures.Alike t.zones ∧
    s.token = t.token ∧
    ∀ (level : Float) (r : Registry) (zone : String) (hours : Nat) (now later : Timestamp),
      Agree (zoneForecast level r zone hours (.of s) now).outcome
        (zoneForecast level r zone hours (.of t) later).outcome := by
  obtain ⟨times, zones⟩ := same_text_fields same
  have tokens : s.token = t.token := congrArg tokenOfText same
  refine ⟨⟨times, ?_⟩, zones, tokens, ?_⟩
  · intro proper proper'
    exact Time.text_instant proper proper' times
  · intro level r zone hours now later
    exact @zone_forecast_same_text level r zone hours (.of s) (.of t) tokens same now later

namespace Sample

-- A snapshot with a value that is yet to be said, under names that have to be escaped.
def unfinished (value : Float) : Snapshot where
  observedAt := ⟨1720620000, 0⟩
  zones := Table.ofList
    [("SCE", { current := Table.ofList [("current_load_mw", value), ("temperature_f", 88)] }),
      ("Zé \"9\"\n", { forecast := Table.ofList [(3, Table.ofList [("wind\\h", 2.5), ("température", value)])] })]

theorem unfinished_alike : unfinished (0 / 0) ≠ unfinished (1 / 0) ∧
    (unfinished (0 / 0)).canonicalText = (unfinished (1 / 0)).canonicalText ∧
    (unfinished (0 / 0)).observedAt = (unfinished (1 / 0)).observedAt ∧
    Agree (zoneForecast 0.95 (registry 1) "SCE" 3 (.of (unfinished (0 / 0))) ⟨1720620001, 0⟩).outcome
      (zoneForecast 0.95 (registry 1) "SCE" 3 (.of (unfinished (1 / 0))) ⟨1720620002, 0⟩).outcome := by
  have same : (unfinished (0 / 0)).canonicalText = (unfinished (1 / 0)).canonicalText := by decide +kernel
  have proper : Time.Timestamp.Proper ⟨1720620000, 0⟩ := ⟨by decide, by decide⟩
  obtain ⟨⟨_, instants⟩, _, _, forecasts⟩ := canonical_text_tells same
  exact ⟨by decide +kernel, same, instants proper proper, forecasts 0.95 (registry 1) "SCE" 3 _ _⟩

end Sample

end GridLoad
