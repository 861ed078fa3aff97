import GridLoad.Feature.Token

/-!
A load forecast for one zone at one horizon, and the record of what produced it.
-/

set_option autoImplicit false

namespace GridLoad

open GridLoad.Time (Timestamp)

structure ModelShare where
  variant : Variant
  modelVersion : String
  weight : Float
  estimate : Float
  residualStd : Float
  deriving DecidableEq

structure MemberShare where
  zone : String
  declaredWeight : Float
  point : Float
  lower : Float
  upper : Float
  modelVersions : List String
  deriving DecidableEq

inductive Provenance where
  | models (weightsVersion : String) (generation : Nat) (shares : List ModelShare)
  | members (combination : String) (shares : List MemberShare)
  deriving DecidableEq

structure Prediction where
  zone : String
  horizon : Nat
  point : Float
  lower : Float
  upper : Float
  level : Float
  token : Token
  generatedAt : Timestamp
  source : Provenance
  deriving DecidableEq

namespace Prediction

def width (p : Prediction) : Float := p.upper - p.lower

def lowerHalf (p : Prediction) : Float := p.point - p.lower

def upperHalf (p : Prediction) : Float := p.upper - p.point

def isGroup (p : Prediction) : Bool :=
  match p.source with
  | .models .. => false
  | .members .. => true

def modelVersions (p : Prediction) : List String :=
  match p.source with
  | .models _ _ shares => shares.map fun s => s.variant.name ++ ":" ++ s.modelVersion
  | .members .. => []

def memberShare (p : Prediction) (declaredWeight : Float) : MemberShare :=
  ⟨p.zone, declaredWeight, p.point, p.lower, p.upper, p.modelVersions⟩

end Prediction

end GridLoad
