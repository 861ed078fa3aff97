import GridLoad.Forecast.Prediction
import GridLoad.Sum

/-!
Virtual zones add up the forecasts of their constituents. `radicand` gives the square of the combined
half-width from the half-widths of the constituents, for errors with a common pairwise correlation.
-/

set_option autoImplicit false

namespace GridLoad

open GridLoad.Time (Timestamp)

inductive Combination (α : Type := Float) where
  | independent
  | correlated (correlation : α)
  deriving DecidableEq

namespace Combination

instance : Inhabited Combination := ⟨.independent⟩

def validate : Combination → Except String Unit
  | .independent => .ok ()
  | .correlated c =>
      if c.isFinite && 0 ≤ c && c ≤ 1 then .ok ()
      else .error ("correlation " ++ Decimal.spoken.write c ++ " must lie in [0, 1]")

def label : Combination → String
  | .independent => "sum/independent"
  | .correlated c => "sum/correlated(" ++ Decimal.spoken.write c ++ ")"

section

variable {α : Type} [Add α] [Sub α] [Mul α] [Neg α] [OfNat α 0]

def squares (halfWidths : List α) : α := total (halfWidths.map fun h => h * h)

-- Sum of squares, and for correlated errors the products of different half-widths, which make up the rest
-- of the squared sum.
def radicand (c : Combination α) (halfWidths : List α) : α :=
  let sumOfSquares := squares halfWidths
  match c with
  | .independent => sumOfSquares
  | .correlated correlation =>
      let sum := total halfWidths
      sumOfSquares + correlation * (sum * sum - sumOfSquares)

end

-- Zero stands in for what is negative or no number.
def clamp (x : Float) : Float := if x > 0 then x else 0

def halfWidth (c : Combination) (halfWidths : List Float) : Float :=
  match c with
  | .independent => (c.radicand halfWidths).sqrt
  | .correlated _ => (clamp (c.radicand halfWidths)).sqrt

def toJson : Combination → Json
  | .independent => .record [("mode", .str "independent")]
  | .correlated c => .record [("mode", .str "correlated"), ("correlation", .float c)]

def isRecord : Json → Bool
  | .object _ => true
  | .array [] => true
  | _ => false

def ofJson? : Json.Decoder Combination := fun j => do
  let (mode, fields) ← Json.toTagged? "mode" 0 j
  if mode = "independent" then (if isRecord fields then some .independent else none)
  else if mode = "correlated" then do
    let r ← Json.toRecord? ["correlation"] fields
    let correlation ← r.required "correlation" Json.toFloat?
    some (.correlated correlation)
  else none

end Combination

/-- Forecast of a virtual zone from the forecasts of its constituents, each with its declared weight. The
weights are carried along and scale nothing. -/
def aggregate (group : String) (horizon : Nat) (token : Token) (combination : Combination)
    (parts : List (Prediction × Float)) (now : Timestamp) : Prediction :=
  let point := total (parts.map fun p => p.1.point)
  { zone := group
    horizon := horizon
    point := point
    lower := point - combination.halfWidth (parts.map fun p => p.1.lowerHalf)
    upper := point + combination.halfWidth (parts.map fun p => p.1.upperHalf)
    level := (parts.head?.map fun p => p.1.level).getD 0
    token := token
    generatedAt := now
    source := .members combination.label (parts.map fun p => p.1.memberShare p.2) }

end GridLoad
