import GridLoad.Feature.Token
import GridLoad.Proofs.Feature.Overridden
import GridLoad.Sample

/-!
What overrides mean: the look-ups that they answer, what they leave as it is, and what they come to one after another.
To override values twice for the same zones is to override them once, with the later value where a name has two.
-/

set_option autoImplicit false

namespace GridLoad

namespace ZoneFeatures

variable (f : ZoneFeatures) (overrides : Values) (name : String) (hours : Nat)

theorem lookup_either :
    f.lookup name hours = ((f.forecast.get? hours).bind (·.get? name)).or (f.current.get? name) := by
  unfold lookup
  cases (f.forecast.get? hours).bind (·.get? name) <;> rfl

theorem forecast_value_overridden : ((f.overrideAll overrides).forecast.get? hours).bind (·.get? name) =
    if overrides.contains name = true then none else (f.forecast.get? hours).bind (·.get? name) := by
  rw [forecast_overridden]
  cases f.forecast.get? hours with
  | none => simp
  | some values =>
      rw [Option.map_some, Option.bind_some, Option.bind_some, Table.get_filter]
      cases overrides.contains name <;> cases values.get? name <;> rfl

-- No forecast stands before a value that overrides.
theorem lookup_overridden :
    (f.overrideAll overrides).lookup name hours = (overrides.get? name).or (f.lookup name hours) := by
  rw [lookup_either, lookup_either, current_overridden, forecast_value_overridden, Table.contains]
  cases overrides.get? name with
  | none => rfl
  | some value => rfl

end ZoneFeatures

namespace Snapshot

variable (s : Snapshot) {others : List String} (zones : List String) (overrides later : Values) (zone name : String)

-- A snapshot is told by its time and by what it has for each zone.
theorem ext_zone {s s' : Snapshot} (time : s.observedAt = s'.observedAt)
    (features : ∀ zone, s.zone? zone = s'.zone? zone) : s = s' :=
  congrArg₂ Snapshot.mk time (Table.ext_get features)

theorem value_overridden (hours : Nat) : ((s.withOverrides zones overrides).zone? zone).bind (·.lookup name hours) =
    if zone ∈ zones ∧ overrides.contains name = true then overrides.get? name
    else (s.zone? zone).bind (·.lookup name hours) := by
  -- A zone that was missing is entered without any value.
  have before : ((s.zone? zone).getD {}).lookup name hours = (s.zone? zone).bind (·.lookup name hours) := by
    cases s.zone? zone <;> rfl
  rw [zone_overridden]
  by_cases listed : zone ∈ zones
  · rw [if_pos listed, Option.bind_some, ZoneFeatures.lookup_overridden, before, Table.contains]
    cases overrides.get? name <;> simp [listed]
  · rw [if_neg listed, if_neg fun both => listed both.1]

theorem zones_overridden :
    (s.withOverrides zones overrides).zones.contains zone = true ↔ s.zones.contains zone = true ∨ zone ∈ zones := by
  have here := zone_overridden s overrides zones zone
  rw [zone?, zone?] at here
  rw [Table.contains, Table.contains, here]
  by_cases listed : zone ∈ zones <;> simp [listed]

-- It makes no difference in which order zones are listed, or how often.
theorem overrides_relisted (same : ∀ zone, zone ∈ others ↔ zone ∈ zones) :
    s.withOverrides others overrides = s.withOverrides zones overrides := by
  refine ext_zone ?_ fun zone => ?_
  · rw [observed_overridden, observed_overridden]
  · simp only [zone_overridden, same]

theorem overrides_twice :
    (s.withOverrides zones overrides).withOverrides zones later = s.withOverrides zones (overrides.overlay later) := by
  refine ext_zone ?_ fun zone => ?_
  · simp only [observed_overridden]
  · simp only [zone_overridden]
    split
    · rw [Option.getD_some, ZoneFeatures.override_all_twice]
    · rfl

end Snapshot

/-- With overrides, a look-up gives the overriding value for the zones and names that there is one for, and otherwise what
it gave before. The zones are those from before and those listed, whatever their order and repetition, and the time stays.
Overrides on overrides come to one snapshot, and so to one token, with both at once, where the later ones stay; the same
ones again change nothing. -/
theorem overrides_overlaid (s : Snapshot) (zones : List String) (overrides : Values) :
    (∀ zone name hours, ((s.withOverrides zones overrides).zone? zone).bind (·.lookup name hours) =
      if zone ∈ zones ∧ overrides.contains name = true then overrides.get? name
      else (s.zone? zone).bind (·.lookup name hours)) ∧
    (∀ zone, zone ∉ zones → (s.withOverrides zones overrides).zone? zone = s.zone? zone) ∧
    (∀ zone, (s.withOverrides zones overrides).zones.contains zone = true ↔
      s.zones.contains zone = true ∨ zone ∈ zones) ∧
    (s.withOverrides zones overrides).observedAt = s.observedAt ∧
    (∀ others, (∀ zone, zone ∈ others ↔ zone ∈ zones) →
      s.withOverrides others overrides = s.withOverrides zones overrides) ∧
    (∀ later : Values,
      (∀ name, (overrides.overlay later).get? name = (later.get? name).or (overrides.get? name)) ∧
      NamedSnapshot.of ((s.withOverrides zones overrides).withOverrides zones later) =
        NamedSnapshot.of (s.withOverrides zones (overrides.overlay later))) ∧
    (s.withOverrides zones overrides).withOverrides zones overrides = s.withOverrides zones overrides := by
  refine ⟨s.value_overridden zones overrides, fun zone unlisted => ?_, s.zones_overridden zones overrides,
    s.observed_overridden overrides zones, fun others => s.overrides_relisted zones overrides, fun later => ?_,
    s.overrides_again overrides (List.Subset.refl zones)⟩
  · rw [Snapshot.zone_overridden, if_neg unlisted]
  · exact ⟨Table.get_overlay overrides later, congrArg NamedSnapshot.of (s.overrides_twice zones overrides later)⟩

namespace Sample

def heat : Values := Table.ofList [("temperature_f", 104)]

def mildDay : Snapshot := snapshot ⟨1720533600, 0⟩

-- A zone that is listed twice, and one that was not there before.
theorem heat_overlaid :
    (mildDay.withOverrides ["SDGE", "SCE", "SDGE"] heat).zones.contains "SDGE" = true ∧
    ((mildDay.withOverrides ["SDGE", "SCE", "SDGE"] heat).zone? "SCE").bind (·.lookup "temperature_f" 3) = some 104 ∧
    (mildDay.withOverrides ["SDGE", "SCE", "SDGE"] heat).zone? "SP15" = some (features 4999 84) ∧
    mildDay.withOverrides ["SCE", "SDGE"] heat = mildDay.withOverrides ["SDGE", "SCE", "SDGE"] heat := by
  obtain ⟨lookups, elsewhere, zones, _, relisted, _⟩ := overrides_overlaid mildDay ["SDGE", "SCE", "SDGE"] heat
  refine ⟨(zones "SDGE").mpr (.inr (by simp)), ?_, (elsewhere "SP15" (by simp)).trans (by decide +kernel), ?_⟩
  · rw [lookups, if_pos (by decide +kernel)]
    decide +kernel
  · exact relisted ["SCE", "SDGE"] (by grind)

end Sample

end GridLoad
