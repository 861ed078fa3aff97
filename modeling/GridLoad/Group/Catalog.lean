import GridLoad.Forecast.Failure
import GridLoad.Json.Decode
import GridLoad.Table
import GridLoad.Text.Blank

/-!
Virtual zones: named groups of real zones. A catalog holds definitions that are well formed and flat, so that
no constituent is itself virtual.
-/

set_option autoImplicit false

namespace GridLoad

-- A constituent with its usual share of the load, which is for display only.
structure Member where
  zone : String
  weight : Float := 1
  deriving DecidableEq

structure Group where
  id : String
  members : List Member
  deriving DecidableEq

def Group.memberIds (g : Group) : List String := g.members.map (·.zone)

def Member.toJson (m : Member) : Json := .record [("zone", .str m.zone), ("weight", .float m.weight)]

def Member.ofJson? : Json.Decoder Member := fun j => do
  let r ← Json.toRecord? ["zone", "weight"] j
  let zone ← r.required "zone" Json.toText?
  let weight ← r.defaulted "weight" 1 Json.toFloat?
  some ⟨zone, weight⟩

def Group.toJson (g : Group) : Json :=
  .record [("id", .str g.id), ("constituents", .array (g.members.map Member.toJson))]

def Group.ofJson? : Json.Decoder Group := fun j => do
  let r ← Json.toRecord? ["id", "constituents"] j
  let id ← r.required "id" Json.toText?
  let members ← r.required "constituents" (Json.toList? Member.ofJson?)
  some ⟨id, members⟩

inductive CatalogFault where
  | blankId
  | tooFew (group : String)
  | listsItself (group : String)
  | listsTwice (group member : String)
  | badWeight (group member : String)
  | definedTwice (group : String)
  | nested (group member : String)
  deriving DecidableEq

def CatalogFault.message : CatalogFault → String
  | .blankId => "virtual zone id must not be empty"
  | .tooFew group => "virtual zone " ++ group ++ " needs at least two constituents"
  | .listsItself group => "virtual zone " ++ group ++ " lists itself as a constituent"
  | .listsTwice group member => "virtual zone " ++ group ++ " lists " ++ member ++ " more than once"
  | .badWeight group member =>
      "virtual zone " ++ group ++ ": weight of " ++ member ++ " must be a non-negative number"
  | .definedTwice group => "virtual zone " ++ group ++ " is defined more than once"
  | .nested group member =>
      "virtual zone " ++ group ++ " lists virtual zone " ++ member ++ " as a constituent"

namespace Group

-- Checks members in turn; `seen` are the zones of those before.
def checkMembers (id : String) (seen : List String) : List Member → Except CatalogFault Unit
  | [] => .ok ()
  | m :: rest =>
      if m.zone = id then .error (.listsItself id)
      else if seen.contains m.zone then .error (.listsTwice id m.zone)
      else if !m.weight.isFinite || m.weight < 0 then .error (.badWeight id m.zone)
      else checkMembers id (m.zone :: seen) rest

def check (g : Group) : Except CatalogFault Unit :=
  if Text.allBlank g.id then .error .blankId
  else if g.members.length < 2 then .error (.tooFew g.id)
  else checkMembers g.id [] g.members

end Group

structure Catalog where
  groups : Table String Group := .empty
  deriving DecidableEq

instance : Inhabited Catalog := ⟨{}⟩

namespace Catalog

def collect (groups : Table String Group) : List Group → Except CatalogFault (Table String Group)
  | [] => .ok groups
  | g :: rest =>
      match g.check with
      | .error fault => .error fault
      | .ok () =>
          if groups.contains g.id then .error (.definedTwice g.id)
          else collect (groups.insert g.id g) rest

def nested? (groups : Table String Group) : Option CatalogFault :=
  groups.values.findSome? fun g =>
    (g.members.find? fun m => groups.contains m.zone).map fun m => .nested g.id m.zone

def ofGroups (definitions : List Group) : Except CatalogFault Catalog :=
  match collect .empty definitions with
  | .error fault => .error fault
  | .ok groups =>
      match nested? groups with
      | some fault => .error fault
      | none => .ok ⟨groups⟩

/-- A catalog, or the failure that names what is wrong with the definitions. -/
def define (definitions : List Group) : Except Failure Catalog :=
  (ofGroups definitions).mapError fun fault => .configuration fault.message

def get? (c : Catalog) (id : String) : Option Group := c.groups.get? id

def contains (c : Catalog) (id : String) : Bool := c.groups.contains id

-- Where a catalog and the zones that are there do not match.
inductive Warning where
  | shadows (group : String)
  | missing (group member : String)
  deriving DecidableEq

def Warning.group : Warning → String
  | .shadows group => group
  | .missing group _ => group

def Warning.member? : Warning → Option String
  | .shadows _ => none
  | .missing _ member => some member

def Warning.message : Warning → String
  | .shadows _ => "Virtual zone id shadows a real zone; requests resolve to the composite"
  | .missing _ _ => "Constituent has no loaded model; composite will be unavailable"

def warnings (c : Catalog) (realZones : List String) : List Warning :=
  c.groups.values.flatMap fun g =>
    (if realZones.contains g.id then [.shadows g.id] else []) ++
      (g.members.filter fun m => !realZones.contains m.zone).map fun m => .missing g.id m.zone

end Catalog

end GridLoad
