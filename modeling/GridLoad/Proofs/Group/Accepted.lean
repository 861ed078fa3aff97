import GridLoad.Group.Catalog

/-!
What a catalog that was accepted is known for: each definition stands under its own id and has several constituents,
none of which is itself a virtual zone.
-/

set_option autoImplicit false

namespace GridLoad

namespace Catalog

structure WellFormed (id : String) (g : Group) : Prop where
  named : g.id = id
  several : 2 ≤ g.members.length

structure Flat (c : Catalog) : Prop where
  formed : ∀ id g, c.get? id = some g → WellFormed id g
  flat : ∀ id g, c.get? id = some g → ∀ m ∈ g.members, c.get? m.zone = none

theorem check_several {g : Group} (accepted : g.check = .ok ()) : 2 ≤ g.members.length := by
  unfold Group.check at accepted
  split at accepted
  · cases accepted
  · split at accepted
    · cases accepted
    · rename_i several
      exact Nat.le_of_not_lt several

theorem collect_formed {definitions : List Group} {groups collected : Table String Group}
    (accepted : collect groups definitions = .ok collected)
    (formed : ∀ id g, groups.get? id = some g → WellFormed id g) :
    ∀ id g, collected.get? id = some g → WellFormed id g := by
  induction definitions generalizing groups with
  | nil =>
      cases accepted
      exact formed
  | cons first rest ih =>
      rw [collect] at accepted
      split at accepted
      · cases accepted
      · rename_i checked
        split at accepted
        · cases accepted
        · apply ih accepted
          intro id g found
          rcases Table.get_insert_some found with ⟨rfl, rfl⟩ | before
          · exact ⟨rfl, check_several checked⟩
          · exact formed id g before

theorem not_nested {groups : Table String Group} (flat : nested? groups = none) {id : String} {g : Group}
    (found : groups.get? id = some g) {m : Member} (member : m ∈ g.members) : groups.get? m.zone = none := by
  have listed : g ∈ groups.values := List.mem_map.mpr ⟨(id, g), Table.entry_of_get found, rfl⟩
  have none := List.findSome?_eq_none_iff.mp flat g listed
  simp only [Option.map_eq_none_iff] at none
  have real := List.find?_eq_none.mp none m member
  simpa [Table.contains] using real

theorem define_flat {definitions : List Group} {c : Catalog} (accepted : define definitions = .ok c) : c.Flat := by
  have grouped : ofGroups definitions = .ok c := by
    unfold define at accepted
    cases made : ofGroups definitions with
    | error fault =>
        rw [made] at accepted
        cases accepted
    | ok made' =>
        rw [made] at accepted
        cases accepted
        rfl
  unfold ofGroups at grouped
  split at grouped
  · cases grouped
  · rename_i groups collected
    split at grouped
    · cases grouped
    · rename_i flat
      cases grouped
      exact ⟨collect_formed collected fun id g found => by simp at found, fun id g found m => not_nested flat found⟩

end Catalog

end GridLoad
