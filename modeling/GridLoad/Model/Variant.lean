import GridLoad.Json.Decode

/-!
The two kinds of model that a zone may have. Baseline comes before enhanced wherever variants are listed.
-/

set_option autoImplicit false

namespace GridLoad

inductive Variant where
  | baseline
  | enhanced
  deriving DecidableEq, Repr

namespace Variant

def all : List Variant := [.baseline, .enhanced]

def name : Variant → String
  | .baseline => "baseline"
  | .enhanced => "enhanced"

def artifactStem (v : Variant) : String := v.name ++ "_model_current"

def toJson (v : Variant) : Json := .str v.name

def named : List (String × Variant) := all.map fun v => (v.name, v)

def ofJson? (nothing : Json → Bool := Json.isNull) : Json.Decoder Variant := Json.toOneOf? nothing named

end Variant

end GridLoad
