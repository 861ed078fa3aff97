import GridLoad.Json.Value
import GridLoad.Proofs.Json.Escaped

/-!
Documents with what stands under a name blanked out.
-/

set_option autoImplicit false

namespace GridLoad.Json

mutual
-- A document with nothing under a name, wherever that stands.
def blanked (name : String) : Json → Json
  | .array items => .array (itemsBlanked name items)
  | .object fields => .object (fieldsBlanked name fields)
  | j => j
def itemsBlanked (name : String) : List Json → List Json
  | [] => []
  | item :: rest => blanked name item :: itemsBlanked name rest
def fieldsBlanked (name : String) : List (Lexeme × Json) → List (Lexeme × Json)
  | [] => []
  | (other, value) :: rest =>
      (other, if other = escape name then .null else blanked name value) :: fieldsBlanked name rest
end

-- What stands under a name in a record that lacks another.
def keptUnder (name other : String) (value : Json) : Json := if other = name then .null else value.blanked name

theorem blanked_array (name : String) (items : List Json) :
    (array items).blanked name = array (items.map (blanked name)) := by
  rw [blanked]
  congr 1
  induction items with
  | nil => rfl
  | cons item rest ih => rw [itemsBlanked, ih, List.map_cons]

theorem blanked_record (name : String) (fields : List (String × Json)) :
    (record fields).blanked name = record (fields.map fun f => (f.1, keptUnder name f.1 f.2)) := by
  rw [record, blanked, record]
  congr 1
  induction fields with
  | nil => rfl
  | cons f rest ih =>
      have same : escape f.1 = escape name ↔ f.1 = name := ⟨escape_injective, congrArg escape⟩
      simp only [List.map_cons, fieldsBlanked, ih, same, keptUnder]

theorem blanked_sparse (name : String) (fields : List (String × Option Json)) :
    (sparse fields).blanked name = sparse (fields.map fun f => (f.1, f.2.map (keptUnder name f.1))) := by
  rw [sparse, blanked_record, sparse]
  congr 1
  induction fields with
  | nil => rfl
  | cons f rest ih =>
      obtain ⟨other, value⟩ := f
      cases value with
      | none => exact ih
      | some value =>
          simp only [List.filterMap_cons, Option.map_some, List.map_cons, List.cons.injEq, true_and]
          exact ih

end GridLoad.Json
