import GridLoad.Group.Catalog
import GridLoad.Serving.Settings

/-!
What a service is set up with, and what a request may say beyond zone and horizon.
-/

set_option autoImplicit false

namespace GridLoad

structure Setup where
  settings : Settings := {}
  catalog : Catalog := {}

instance : Inhabited Setup := ⟨{}⟩

structure Options where
  snapshot : Option String := none
  overrides : Values := .empty
  deriving DecidableEq

namespace Options

def toJson (o : Options) : Json :=
  .record [("snapshot", .option .str o.snapshot), ("overrides", valuesJson o.overrides)]

def ofJson? : Json.Decoder Options := fun j => do
  let r ← Json.toRecord? ["snapshot", "overrides"] j
  let snapshot ← r.optional "snapshot" Json.toText?
  let overrides ← r.defaulted "overrides" .empty toValues?
  some ⟨snapshot, overrides⟩

end Options

end GridLoad
