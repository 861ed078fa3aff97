import GridLoad.Decimal.Layout
import GridLoad.Model.Variant
import GridLoad.Sum
import GridLoad.Text.Blank

/-!
The declared weights of a zone's two models, and the weights of those that are there: their declared
shares, scaled to one.
-/

set_option autoImplicit false

namespace GridLoad

structure Weights (α : Type := Float) where
  version : String
  baseline : α
  enhanced : α
  deriving DecidableEq

namespace Weights

def standard : Weights := ⟨"v1", 0.35, 0.65⟩

instance : Inhabited Weights := ⟨standard⟩

section

variable {α : Type}

def declared (w : Weights α) : Variant → α
  | .baseline => w.baseline
  | .enhanced => w.enhanced

-- Share of each variant that is there. Equal shares stand in where nothing is declared for any of them.
def effective [Add α] [Neg α] [Div α] [OfNat α 0] [OfNat α 1] [LE α] [DecidableLE α]
    (w : Weights α) (available : List Variant) : List (Variant × α) :=
  let sum := total (available.map w.declared)
  if sum ≤ 0 then
    let count : α := total (available.map fun _ => 1)
    available.map fun v => (v, 1 / count)
  else available.map fun v => (v, w.declared v / sum)

end

def tolerance : Float := 1e-6

def validWeight (name : String) (w : Float) : Except String Unit :=
  if !w.isFinite || w < 0 then
    .error ("ensemble weight " ++ name ++ " must be a non-negative number")
  else .ok ()

def validate (w : Weights) : Except String Unit := do
  if Text.allBlank w.version then throw "ensemble version must not be empty"
  validWeight "baseline" w.baseline
  validWeight "enhanced" w.enhanced
  let sum := w.baseline + w.enhanced
  if (sum - 1.0).abs > tolerance then
    throw ("ensemble weights sum to " ++ Decimal.spoken.write sum ++ ", expected 1")

def toJson (w : Weights) : Json :=
  .record [("version", .str w.version), ("baseline", .float w.baseline), ("enhanced", .float w.enhanced)]

def ofJson? : Json.Decoder Weights := fun j => do
  let r ← Json.toRecord? ["version", "baseline", "enhanced"] j
  let version ← r.required "version" Json.toText?
  let baseline ← r.required "baseline" Json.toFloat?
  let enhanced ← r.required "enhanced" Json.toFloat?
  some ⟨version, baseline, enhanced⟩

end Weights

end GridLoad
