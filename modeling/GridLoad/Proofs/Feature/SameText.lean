import Mathlib.Data.List.Forall2
import GridLoad.Feature.Token
import GridLoad.Proofs.Json.Written
import GridLoad.Proofs.Time.Written

/-!
What two snapshots of one canonical text have in common: the minute of their observation, their zones, the names and
hours of their features, and every value that is finite.
-/

set_option autoImplicit false

namespace GridLoad

open GridLoad.Time (Timestamp)

-- The same finite double, or two that are not finite.
def SameNumber (x y : Float) : Prop := x.isFinite = y.isFinite ∧ (x.isFinite = true → x = y)

-- The same keys with values that have something in common.
def Table.Alike {κ α : Type} [LT κ] (same : α → α → Prop) (t u : Table κ α) : Prop :=
  List.Forall₂ (fun a b => a.1 = b.1 ∧ same a.2 b.2) t.entries u.entries

structure ZoneFeatures.Alike (f g : ZoneFeatures) : Prop where
  current : f.current.Alike SameNumber g.current
  forecast : f.forecast.Alike (Table.Alike SameNumber) g.forecast

structure Snapshot.Alike (s t : Snapshot) : Prop where
  minute : s.observedAt.seconds / 60 = t.observedAt.seconds / 60
  zones : s.zones.Alike ZoneFeatures.Alike t.zones

section

open Json

theorem names_legible {α : Type} {item : α → Json} (each : ∀ a, Legible (item a)) (t : Table String α) :
    Legible (namesJson item t) := by
  apply record_legible
  intro f member
  obtain ⟨e, _, rfl⟩ := List.mem_map.mp member
  exact each e.2

theorem hours_legible {α : Type} {item : α → Json} (each : ∀ a, Legible (item a)) (t : Table Nat α) :
    Legible (hoursJson item t) := by
  apply record_legible
  intro f member
  obtain ⟨e, _, rfl⟩ := List.mem_map.mp member
  exact each e.2

theorem values_legible (values : Values) : Legible (valuesJson values) := names_legible float_legible values

theorem zone_features_legible (f : ZoneFeatures) : Legible f.toJson := by
  apply record_legible
  intro field member
  simp only [List.mem_cons, List.not_mem_nil, or_false] at member
  rcases member with rfl | rfl
  · exact values_legible f.current
  · exact hours_legible values_legible f.forecast

theorem snapshot_legible (s : Snapshot) : Legible s.toJson := by
  apply record_legible
  intro field member
  simp only [List.mem_cons, List.not_mem_nil, or_false] at member
  rcases member with rfl | rfl
  · exact str_legible s.observedAt.text
  · exact names_legible zone_features_legible s.zones

theorem record_fields {fields others : List (String × Json)} (same : record fields = record others) :
    fields = others := by
  have lexemes := Json.object.inj same
  refine List.map_injective_iff.mpr ?_ lexemes
  rintro ⟨name, value⟩ ⟨name', value'⟩ equal
  obtain ⟨names, values⟩ := Prod.mk.inj equal
  exact Prod.ext (escape_injective names) values

theorem float_same {x y : Float} (same : float x = float y) : SameNumber x y := by
  unfold float at same
  by_cases finite : x.isFinite = true
  · by_cases finite' : y.isFinite = true
    · rw [if_pos finite, if_pos finite'] at same
      have texts := String.toList_inj.mp (Json.number.inj same)
      exact ⟨finite.trans finite'.symm, fun _ => Decimal.write_injective finite finite' texts⟩
    · rw [if_pos finite, if_neg finite'] at same
      cases same
  · by_cases finite' : y.isFinite = true
    · rw [if_neg finite, if_pos finite'] at same
      cases same
    · refine ⟨?_, fun there => absurd there finite⟩
      rw [Bool.eq_false_iff.mpr finite, Bool.eq_false_iff.mpr finite']

theorem entries_alike {κ α β : Type} {same : α → α → Prop} {name : κ → β} {item : α → Json}
    (names : ∀ k k', name k = name k' → k = k') (items : ∀ a b, item a = item b → same a b)
    {entries others : List (κ × α)}
    (equal : entries.map (fun e => (name e.1, item e.2)) = others.map (fun e => (name e.1, item e.2))) :
    List.Forall₂ (fun a b => a.1 = b.1 ∧ same a.2 b.2) entries others := by
  induction entries generalizing others with
  | nil =>
      cases others with
      | nil => exact .nil
      | cons b others => cases equal
  | cons a entries ih =>
      cases others with
      | nil => cases equal
      | cons b others =>
          obtain ⟨first, rest⟩ := List.cons.inj equal
          obtain ⟨key, value⟩ := Prod.mk.inj first
          exact .cons ⟨names _ _ key, items _ _ value⟩ (ih rest)

theorem names_alike {α : Type} {same : α → α → Prop} {item : α → Json} (items : ∀ a b, item a = item b → same a b)
    {t u : Table String α} (equal : namesJson item t = namesJson item u) : t.Alike same u :=
  entries_alike (fun _ _ keys => keys) items (record_fields equal)

theorem hours_alike {α : Type} {same : α → α → Prop} {item : α → Json} (items : ∀ a b, item a = item b → same a b)
    {t u : Table Nat α} (equal : hoursJson item t = hoursJson item u) : t.Alike same u :=
  entries_alike (fun _ _ keys => Text.written_injective (String.ofList_injective keys)) items (record_fields equal)

theorem values_alike (values others : Values) (equal : valuesJson values = valuesJson others) :
    values.Alike SameNumber others :=
  names_alike (fun _ _ => float_same) equal

theorem zone_features_alike (f g : ZoneFeatures) (equal : f.toJson = g.toJson) : f.Alike g := by
  have fields := record_fields equal
  simp only [List.cons.injEq, Prod.mk.injEq, true_and, and_true] at fields
  exact ⟨values_alike _ _ fields.1, hours_alike values_alike fields.2⟩

theorem same_text_fields {s t : Snapshot} (same : s.canonicalText = t.canonicalText) :
    s.observedAt.text = t.observedAt.text ∧ s.zones.Alike ZoneFeatures.Alike t.zones := by
  have documents := text_injective (snapshot_legible s) (snapshot_legible t) same
  have fields := record_fields documents
  simp only [List.cons.injEq, Prod.mk.injEq, true_and, and_true] at fields
  exact ⟨escape_injective (Json.string.inj fields.1), names_alike zone_features_alike fields.2⟩

theorem same_text_alike {s t : Snapshot} (same : s.canonicalText = t.canonicalText) : s.Alike t :=
  ⟨Time.text_minute (same_text_fields same).1, (same_text_fields same).2⟩

end

end GridLoad
