import GridLoad.Forecast.Failure
import GridLoad.Model.Estimator

/-!
What is held for one zone: its manifest, and for each variant a model, the reason why there is none, or
nothing.
-/

set_option autoImplicit false

namespace GridLoad

inductive Holding where
  | absent
  | rejected (reason : String)
  | loaded (model : Model)

namespace Holding

def model? : Holding → Option Model
  | .loaded model => some model
  | _ => none

def reason? : Holding → Option String
  | .rejected reason => some reason
  | _ => none

def toJson : Holding → Json
  | .absent => .record [("state", .str "absent")]
  | .rejected reason => .record [("state", .str "rejected"), ("reason", .str reason)]
  | .loaded m => .record [("state", .str "loaded"), ("model_version", .str m.metadata.modelVersion)]

end Holding

structure ZoneEntry where
  manifest : Manifest := {}
  baseline : Holding := .absent
  enhanced : Holding := .absent

instance : Inhabited ZoneEntry := ⟨{}⟩

namespace ZoneEntry

def holding (e : ZoneEntry) : Variant → Holding
  | .baseline => e.baseline
  | .enhanced => e.enhanced

def set (e : ZoneEntry) (v : Variant) (h : Holding) : ZoneEntry :=
  match v with
  | .baseline => { e with baseline := h }
  | .enhanced => { e with enhanced := h }

@[simp] theorem holding_set_self (e : ZoneEntry) (v : Variant) (h : Holding) : (e.set v h).holding v = h := by
  cases v <;> rfl

theorem holding_set_other (e : ZoneEntry) (v w : Variant) (h : Holding) (different : w ≠ v) :
    (e.set v h).holding w = e.holding w := by
  cases v <;> cases w <;> first | rfl | exact absurd rfl different

def model? (e : ZoneEntry) (v : Variant) : Option Model := (e.holding v).model?

def models (e : ZoneEntry) : List (Variant × Model) :=
  Variant.all.filterMap fun v => (e.model? v).map (v, ·)

def variants (e : ZoneEntry) : List Variant := e.models.map (·.1)

def isAvailable (e : ZoneEntry) : Bool := !e.models.isEmpty

def modelVersions (e : ZoneEntry) : List (Variant × String) :=
  e.models.map fun m => (m.1, m.2.metadata.modelVersion)

def issues (e : ZoneEntry) : List String :=
  Variant.all.filterMap fun v => (e.holding v).reason?.map fun reason => v.name ++ ": " ++ reason

def unavailable (e : ZoneEntry) (zone : String) : Failure :=
  if e.issues.isEmpty then .noModel zone else .corruptModel zone ("; ".intercalate e.issues)

def horizons (e : ZoneEntry) : HorizonRange :=
  e.models.foldl
    (fun r m => ⟨max r.least m.2.metadata.horizon.least, min r.greatest m.2.metadata.horizon.greatest⟩)
    ⟨0, wordLimit 32 - 1⟩

end ZoneEntry

end GridLoad
