import GridLoad.Proofs.Forecast.Isolated
import GridLoad.Proofs.Forecast.SameText
import GridLoad.Proofs.Table

/-!
What a snapshot has for a zone once values were put in the stead of others. To put them there again changes nothing,
and for which other zones they were put there makes no difference to a zone. Snapshots of one canonical text go on to
have one when the same values are put into both.
-/

set_option autoImplicit false

namespace GridLoad

namespace ZoneFeatures

variable (f : ZoneFeatures) (overrides later : Values)

theorem current_overlaid : (f.overrideAll overrides).current = f.current.overlay overrides := by
  unfold overrideAll Table.overlay
  generalize overrides.entries = entries
  induction entries generalizing f with
  | nil => rfl
  | cons e rest ih => exact ih (f.override e.1 e.2)

-- The values that are named, with those that are put in their stead.
theorem current_overridden (name : String) :
    (f.overrideAll overrides).current.get? name = (overrides.get? name).or (f.current.get? name) := by
  rw [current_overlaid, Table.get_overlay]

theorem none_overridden (name : String) : overrides.entries.all (·.1 ≠ name) = !overrides.contains name := by
  rw [Table.contains, Table.get?, Option.isSome_map, Bool.eq_iff_iff, Bool.not_eq_true', ← Bool.not_eq_true,
    List.find?_isSome]
  simp only [List.all_eq_true, decide_eq_true_eq, not_exists, not_and, ne_eq]

-- The forecasts of what is overridden are void.
theorem forecast_overridden (hours : Nat) : (f.overrideAll overrides).forecast.get? hours =
    (f.forecast.get? hours).map (Table.filter fun name _ => !overrides.contains name) := by
  simp only [← none_overridden]
  unfold overrideAll
  generalize overrides.entries = entries
  induction entries generalizing f with
  | nil =>
      have all : (fun values : Values => values.filter fun _ _ => true) = id := by
        funext values
        exact Table.filter_all values
      simp [all]
  | cons e rest ih =>
      rw [List.foldl_cons, ih, override, Table.get_map, Option.map_map]
      congr 1
      funext values
      simp only [Function.comp_apply, Table.erase, Table.filter_filter, List.all_cons]
      congr 1
      funext name _
      simp [ne_comm]

-- Of two values for one name the later stays.
theorem override_all_twice : (f.overrideAll overrides).overrideAll later = f.overrideAll (overrides.overlay later) := by
  have current : ((f.overrideAll overrides).overrideAll later).current =
      (f.overrideAll (overrides.overlay later)).current := by
    refine Table.ext_get fun name => ?_
    simp only [current_overridden, Table.get_overlay, Option.or_assoc]
  have forecast : ((f.overrideAll overrides).overrideAll later).forecast =
      (f.overrideAll (overrides.overlay later)).forecast := by
    refine Table.ext_get fun hours => ?_
    simp only [forecast_overridden, Option.map_map]
    congr 1
    funext values
    simp only [Function.comp_apply, Table.filter_filter, Table.contains_overlay, Bool.not_or]
  exact congrArg₂ ZoneFeatures.mk current forecast

-- What is overridden already is not changed by the same values.
theorem override_all_again : (f.overrideAll overrides).overrideAll overrides = f.overrideAll overrides := by
  rw [override_all_twice, Table.overlay_self]

end ZoneFeatures

namespace Snapshot

variable (s : Snapshot) {zones fewer : List String} {zone : String} (overrides : Values)

theorem observed_overridden (zones : List String) : (s.withOverrides zones overrides).observedAt = s.observedAt := by
  induction zones generalizing s with
  | nil => rfl
  | cons first rest ih => exact ih (s.overrideZone overrides first)

-- A zone is overridden once, however often it is listed.
theorem zone_overridden (zones : List String) (zone : String) : (s.withOverrides zones overrides).zone? zone =
    if zone ∈ zones then some (((s.zone? zone).getD {}).overrideAll overrides) else s.zone? zone := by
  induction zones generalizing s with
  | nil => rfl
  | cons first rest ih =>
      have here : (s.overrideZone overrides first).zone? zone =
          if zone = first then some (((s.zone? zone).getD {}).overrideAll overrides) else s.zone? zone := by
        simp only [zone?, overrideZone, Table.modify]
        split
        · rename_i same
          rw [same, Table.get_insert_self]
        · rename_i other
          rw [Table.get_insert_other _ _ _ _ other]
      refine (ih (s.overrideZone overrides first)).trans ?_
      rw [here]
      by_cases same : zone = first
      · simp [same, ZoneFeatures.override_all_again]
      · simp [same]

theorem overrides_again (listed : fewer ⊆ zones) :
    (s.withOverrides zones overrides).withOverrides fewer overrides = s.withOverrides zones overrides := by
  have same : ((s.withOverrides zones overrides).withOverrides fewer overrides).zones =
      (s.withOverrides zones overrides).zones := by
    refine Table.ext_get fun zone => ?_
    refine (zone_overridden (s.withOverrides zones overrides) overrides fewer zone).trans ?_
    split
    · rename_i member
      have once := zone_overridden s overrides zones zone
      rw [if_pos (listed member)] at once
      rw [once]
      exact (congrArg some (ZoneFeatures.override_all_again _ _)).trans once.symm
    · rfl
  exact congrArg₂ Snapshot.mk (observed_overridden _ overrides fewer) same

-- A zone has the same once it is overridden, together with others or by itself.
theorem overridden_alone (member : zone ∈ zones) :
    (s.withOverrides zones overrides).SameFor [zone] (s.withOverrides [zone] overrides) where
  observedAt := (observed_overridden s overrides zones).trans (observed_overridden s overrides [zone]).symm
  features other listed := by
    obtain rfl := List.mem_singleton.mp listed
    rw [zone_overridden, zone_overridden, if_pos member, if_pos listed]

end Snapshot

/-! Snapshots of one text. -/

namespace Table

variable {κ α β : Type} [LT κ] {same : α → α → Prop} {also : β → β → Prop} {t u : Table κ α}

theorem insert_alike [DecidableLT κ] [DecidableEq κ] [KeyOrder κ] (alike : t.Alike same u) (key : κ) {a b : α}
    (both : same a b) : (t.insert key a).Alike same (u.insert key b) := by
  unfold Alike at alike
  simp only [Alike, insert]
  generalize t.entries = entries at alike
  generalize u.entries = others at alike
  induction alike with
  | nil => exact .cons ⟨rfl, both⟩ .nil
  | @cons e e' entries others head rest ih =>
      simp only [insertEntry, head.1]
      split
      · exact .cons ⟨rfl, both⟩ (.cons head rest)
      · split
        · exact .cons ⟨rfl, both⟩ rest
        · exact .cons head ih

theorem map_alike (alike : t.Alike same u) {f : κ → α → β} (kept : ∀ key a b, same a b → also (f key a) (f key b)) :
    (t.map f).Alike also (u.map f) := by
  refine List.forall₂_map_left_iff.mpr (List.forall₂_map_right_iff.mpr (alike.imp fun e e' both => ⟨both.1, ?_⟩))
  rw [both.1]
  exact kept _ _ _ both.2

theorem erase_alike [DecidableEq κ] (alike : t.Alike same u) (key : κ) : (t.erase key).Alike same (u.erase key) := by
  unfold Alike at alike
  simp only [Alike, erase, filter]
  generalize t.entries = entries at alike
  generalize u.entries = others at alike
  induction alike with
  | nil => exact .nil
  | @cons e e' entries others head _ ih =>
      simp only [List.filter_cons, head.1]
      split
      · exact .cons head ih
      · exact ih

theorem alike_written (name : κ → String) {item : α → Json} (alike : t.Alike same u)
    (items : ∀ a b, same a b → item a = item b) :
    t.entries.map (fun e => (name e.1, item e.2)) = u.entries.map fun e => (name e.1, item e.2) := by
  unfold Alike at alike
  generalize t.entries = entries at alike
  generalize u.entries = others at alike
  induction alike with
  | nil => rfl
  | cons head _ ih => rw [List.map_cons, List.map_cons, head.1, items _ _ head.2, ih]

end Table

section

variable {f g : ZoneFeatures} {s s' : Snapshot}

theorem same_number_refl (x : Float) : SameNumber x x := ⟨rfl, fun _ => rfl⟩

theorem override_alike (alike : f.Alike g) (name : String) (value : Float) :
    (f.override name value).Alike (g.override name value) where
  current := Table.insert_alike alike.current name (same_number_refl value)
  forecast := Table.map_alike alike.forecast fun _ _ _ both => Table.erase_alike both name

theorem override_all_alike (alike : f.Alike g) (overrides : Values) :
    (f.overrideAll overrides).Alike (g.overrideAll overrides) := by
  unfold ZoneFeatures.overrideAll
  generalize overrides.entries = entries
  induction entries generalizing f g with
  | nil => exact alike
  | cons e rest ih => exact ih (override_alike alike e.1 e.2)

theorem override_zone_alike (alike : s.zones.Alike ZoneFeatures.Alike s'.zones) (overrides : Values) (zone : String) :
    (s.overrideZone overrides zone).zones.Alike ZoneFeatures.Alike (s'.overrideZone overrides zone).zones := by
  refine Table.insert_alike alike zone (override_all_alike ?_ overrides)
  rcases rel_cases (get_alike alike zone) with ⟨first, second⟩ | ⟨f, g, first, second, both⟩
  · rw [first, second]
    exact ⟨.nil, .nil⟩
  · rw [first, second]
    exact both

theorem with_overrides_alike (alike : s.zones.Alike ZoneFeatures.Alike s'.zones) (zones : List String)
    (overrides : Values) :
    (s.withOverrides zones overrides).zones.Alike ZoneFeatures.Alike (s'.withOverrides zones overrides).zones := by
  induction zones generalizing s s' with
  | nil => exact alike
  | cons first rest ih => exact ih (override_zone_alike alike overrides first)

-- Whatever two snapshots have in common by their text is all that their text says.
theorem text_of_alike (time : s.observedAt.text = s'.observedAt.text)
    (alike : s.zones.Alike ZoneFeatures.Alike s'.zones) : s.canonicalText = s'.canonicalText := by
  have floats : ∀ x y, SameNumber x y → Json.float x = Json.float y := by
    intro x y same
    by_cases finite : x.isFinite = true
    · rw [same.2 finite]
    · have other : ¬ y.isFinite = true := same.1 ▸ finite
      simp only [Json.float, if_neg finite, if_neg other]
  have values : ∀ t u : Values, t.Alike SameNumber u → valuesJson t = valuesJson u := fun t u both =>
    congrArg Json.record (Table.alike_written id both floats)
  have features : ∀ f g : ZoneFeatures, f.Alike g → f.toJson = g.toJson := by
    intro f g both
    have hours : hoursJson valuesJson f.forecast = hoursJson valuesJson g.forecast :=
      congrArg Json.record (Table.alike_written toString both.forecast values)
    simp only [ZoneFeatures.toJson, values _ _ both.current, hours]
  have zones : namesJson ZoneFeatures.toJson s.zones = namesJson ZoneFeatures.toJson s'.zones :=
    congrArg Json.record (Table.alike_written id alike features)
  simp only [Snapshot.canonicalText, Snapshot.toJson, timestampJson, time, zones]

theorem same_text_overridden (same : s.canonicalText = s'.canonicalText) (zones : List String) (overrides : Values) :
    (s.withOverrides zones overrides).canonicalText = (s'.withOverrides zones overrides).canonicalText := by
  obtain ⟨time, alike⟩ := same_text_fields same
  refine text_of_alike ?_ (with_overrides_alike alike zones overrides)
  rw [Snapshot.observed_overridden, Snapshot.observed_overridden, time]

end

end GridLoad
