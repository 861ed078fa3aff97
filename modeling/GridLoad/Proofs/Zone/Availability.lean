import GridLoad.Proofs.Feature.Retained
import GridLoad.Proofs.Forecast.Failures
import GridLoad.Proofs.Group.Accepted
import GridLoad.Serving.Service

/-!
Which zones there are and which of them can serve, as the listing, the description of a zone, the warnings about a
catalog and the loading of models each tell it.
-/

set_option autoImplicit false

namespace GridLoad

open GridLoad.Time (Timestamp)

section

variable {r : Registry} {zone : String}

theorem available_listed : zone ∈ r.availableZones ↔ (r.find? zone).any ZoneEntry.isAvailable = true := by
  rw [Registry.availableZones, Table.mem_keys, Option.any_eq_true]
  constructor
  · rintro ⟨e, found⟩
    obtain ⟨there, available⟩ := Table.get_filter_iff.mp found
    exact ⟨e, there, available⟩
  · rintro ⟨e, there, available⟩
    exact ⟨e, Table.get_filter_iff.mpr ⟨there, available⟩⟩

theorem available_contains : r.availableZones.contains zone = (r.find? zone).any ZoneEntry.isAvailable := by
  rw [Bool.eq_iff_iff, List.contains_iff_mem, available_listed]

-- The failure with which a zone that cannot serve is not loaded.
theorem load_unavailable (unavailable : (r.find? zone).any ZoneEntry.isAvailable = false) :
    ∃ f, r.load zone = .error f ∧ (f = .noModel zone ∨ ∃ reason, f = .corruptModel zone reason) := by
  rcases load_cases r zone with ⟨_, failed⟩ | ⟨e, found, ⟨available, _⟩ | ⟨_, failed⟩⟩
  · exact ⟨_, failed, .inl rfl⟩
  · rw [found] at unavailable
    cases unavailable.symm.trans available
  · refine ⟨_, failed, ?_⟩
    unfold ZoneEntry.unavailable
    by_cases silent : e.issues.isEmpty
    · exact .inl (if_pos silent)
    · exact .inr ⟨_, if_neg silent⟩

end

section Listing

variable {c : Catalog} {r : Registry}

theorem group_named (flat : c.Flat) {g : Group} (listed : g ∈ c.groups.values) : c.get? g.id = some g := by
  obtain ⟨⟨id, other⟩, member, rfl⟩ := List.mem_map.mp listed
  have found : c.get? id = some other := Table.get_of_entry member
  rw [(flat.formed id other found).named]
  exact found

theorem group_ids (flat : c.Flat) : c.groups.values.map (·.id) = c.groups.keys := by
  rw [Table.values, Table.keys, List.map_map]
  apply List.map_congr_left
  rintro ⟨id, g⟩ member
  exact (flat.formed id g (Table.get_of_entry member)).named

-- The names in a listing: the real zones that are not hidden, and the virtual ones.
theorem summary_names (flat : c.Flat) : (zoneSummaries c r).map (·.zone) =
    (r.zones.filter fun zone _ => !c.contains zone).keys ++ c.groups.keys := by
  rw [← group_ids flat, zoneSummaries, List.map_append, List.map_map, List.map_map, Table.keys]
  rfl

theorem real_listed {zone : String} :
    zone ∈ (r.zones.filter fun zone _ => !c.contains zone).keys ↔ r.contains zone = true ∧ c.contains zone = false := by
  rw [Table.mem_keys]
  constructor
  · rintro ⟨e, found⟩
    obtain ⟨there, plain⟩ := Table.get_filter_iff.mp found
    exact ⟨Option.isSome_iff_exists.mpr ⟨e, there⟩, by simpa using plain⟩
  · rintro ⟨there, plain⟩
    obtain ⟨e, found⟩ := Option.isSome_iff_exists.mp there
    exact ⟨e, Table.get_filter_iff.mpr ⟨found, by simpa using plain⟩⟩

theorem virtual_listed {zone : String} : zone ∈ c.groups.keys ↔ c.contains zone = true := by
  rw [Table.mem_keys]
  exact Option.isSome_iff_exists.symm

theorem listed_once (flat : c.Flat) (r : Registry) : ((zoneSummaries c r).map (·.zone)).Nodup := by
  rw [summary_names flat]
  refine List.nodup_append.mpr ⟨Table.keys_nodup _, Table.keys_nodup _, ?_⟩
  rintro zone real other virtual rfl
  have hidden := (real_listed.mp real).2
  rw [virtual_listed.mp virtual] at hidden
  cases hidden

theorem listed_known (flat : c.Flat) (r : Registry) (zone : String) :
    zone ∈ (zoneSummaries c r).map (·.zone) ↔ isKnown c r zone = true := by
  rw [summary_names flat, List.mem_append, real_listed, virtual_listed, isKnown, Bool.or_eq_true]
  by_cases virtual : c.contains zone = true
  · simp [virtual]
  · rw [Bool.not_eq_true] at virtual
    simp [virtual]

theorem group_available (r : Registry) (g : Group) :
    (groupStatus r g).available = g.members.all fun m => r.availableZones.contains m.zone := by
  simp only [groupStatus, List.all_map, Function.comp_def, available_contains]

-- What a listing says of a zone is what its description says.
theorem listed_described (flat : c.Flat) {summary : ZoneSummary} (listed : summary ∈ zoneSummaries c r) :
    ∃ status, describe c r summary.zone = .ok status ∧ status.zone = summary.zone ∧ status.kind = summary.kind ∧
      status.available = summary.available ∧ status.members = summary.members := by
  rcases List.mem_append.mp listed with real | virtual
  · obtain ⟨⟨zone, e⟩, member, rfl⟩ := List.mem_map.mp real
    obtain ⟨found, plain⟩ := Table.get_filter_iff.mp (Table.get_of_entry member)
    have hidden : c.contains zone = false := by simpa using plain
    have none : c.get? zone = none := Option.isNone_iff_eq_none.mp (Option.isSome_eq_false_iff.mp hidden)
    have there : r.find? zone = some e := found
    exact ⟨entryStatus r zone e, by simp only [describe, none, there], rfl, rfl, rfl, rfl⟩
  · obtain ⟨g, member, rfl⟩ := List.mem_map.mp virtual
    exact ⟨groupStatus r g, by simp only [describe, group_named flat member], rfl, rfl, group_available r g, rfl⟩

theorem warned_missing (r : Registry) {id : String} :
    (∃ member, Catalog.Warning.missing id member ∈ c.warnings r.availableZones) ↔
      ∃ g ∈ c.groups.values, g.id = id ∧ (groupStatus r g).available = false := by
  simp only [Catalog.warnings, List.mem_flatMap, List.mem_append, List.mem_map, List.mem_filter, group_available,
    List.all_eq_false]
  constructor
  · rintro ⟨_, g, listed, shadow | ⟨m, ⟨member, absent⟩, same⟩⟩
    · split at shadow <;> simp at shadow
    · cases same
      exact ⟨g, listed, rfl, m, member, by simpa using absent⟩
  · rintro ⟨g, listed, rfl, m, member, absent⟩
    exact ⟨m.zone, g, listed, .inr ⟨m, ⟨member, by simpa using absent⟩, rfl⟩⟩

-- Of a virtual zone that is listed as unavailable, and of no other, a constituent is said to be missing.
theorem warned_unavailable (r : Registry) (id : String) :
    (∃ member, Catalog.Warning.missing id member ∈ c.warnings r.availableZones) ↔
      ∃ summary ∈ zoneSummaries c r, summary.zone = id ∧ summary.kind = .virtual ∧ summary.available = false := by
  rw [warned_missing]
  constructor
  · rintro ⟨g, listed, rfl, missing⟩
    rw [group_available] at missing
    exact ⟨_, List.mem_append_right _ (List.mem_map.mpr ⟨g, listed, rfl⟩), rfl, rfl, missing⟩
  · rintro ⟨summary, listed, rfl, virtual, missing⟩
    rcases List.mem_append.mp listed with real | group
    · obtain ⟨_, _, rfl⟩ := List.mem_map.mp real
      cases virtual
    · obtain ⟨g, member, rfl⟩ := List.mem_map.mp group
      exact ⟨g, member, rfl, by rw [group_available]; exact missing⟩

end Listing

end GridLoad
