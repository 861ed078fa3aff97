import GridLoad.Json.Value

/-!
Looking into documents without a decoder: what is not there counts as `null`, and as an empty list.
-/

set_option autoImplicit false

namespace GridLoad.Json

-- Fields whose names can be read.
def fields : Json → List (String × Json)
  | .object fs => fs.filterMap fun f => (textOf? f.1).map (·, f.2)
  | _ => []

def field? (j : Json) (name : String) : Option Json := (j.fields.find? fun f => f.1 = name).map (·.2)

def field (j : Json) (name : String) : Json := (j.field? name).getD .null

def items : Json → List Json
  | .array items => items
  | _ => []

def item (j : Json) (i : Nat) : Json := j.items.getD i .null

def mapField (name : String) (change : Json → Option Json) : Json → Json
  | .object fs =>
      .object (fs.filterMap fun f =>
        if textOf? f.1 = some name then (change f.2).map (f.1, ·) else some f)
  | j => j

def without (name : String) (j : Json) : Json := j.mapField name fun _ => none

def adding (more : List (String × Json)) : Json → Json
  | .object fs => .object (fs ++ more.map fun f => (escape f.1, f.2))
  | j => j

end GridLoad.Json
