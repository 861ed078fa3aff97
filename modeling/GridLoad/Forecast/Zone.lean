import GridLoad.Feature.Inputs
import GridLoad.Forecast.Interval
import GridLoad.Forecast.Prediction
import GridLoad.Zone.Registry

/-!
Forecast of a real zone: each loaded model's estimate, weighted and added up. The result comes with the
variants whose models were asked, the last of which may be the one that failed.
-/

set_option autoImplicit false

namespace GridLoad

open GridLoad.Time (Timestamp)

structure Asked (α : Type) where
  variants : List Variant
  outcome : Outcome α

def Asked.map {α β : Type} (f : α → β) (a : Asked α) : Asked β := ⟨a.variants, a.outcome.map f⟩

def modelShare (zone : String) (s : Snapshot) (hours : Nat) (v : Variant) (weight : Float) (m : Model) :
    Asked ModelShare :=
  match modelInputs zone m.metadata.features s hours with
  | .error halt => ⟨[], .error halt⟩
  | .ok inputs =>
      match m.estimate inputs with
      | .error reason => ⟨[v], fail (.corruptModel zone (v.name ++ " model failed to evaluate: " ++ reason))⟩
      | .ok estimate =>
          if !estimate.isFinite then
            ⟨[v], fail (.corruptModel zone (v.name ++ " model produced a non-finite estimate"))⟩
          else
            ⟨[v], .ok ⟨v, m.metadata.modelVersion, weight, estimate, m.metadata.residuals.stdAt hours⟩⟩

-- Asks the models in turn, up to the first that gives nothing.
def modelShares (zone : String) (s : Snapshot) (hours : Nat) (e : ZoneEntry) :
    List (Variant × Float) → Asked (List ModelShare)
  | [] => ⟨[], .ok []⟩
  | (v, weight) :: rest =>
      match e.model? v with
      | none => modelShares zone s hours e rest
      | some m =>
          let first := modelShare zone s hours v weight m
          match first.outcome with
          | .error halt => ⟨first.variants, .error halt⟩
          | .ok share =>
              let others := modelShares zone s hours e rest
              ⟨first.variants ++ others.variants, others.outcome.map (share :: ·)⟩

-- Weighted sum of the estimates with its confidence interval.
def predictionOfShares (level : Float) (generation : Nat) (zone : String) (hours : Nat) (token : Token)
    (weightsVersion : String) (now : Timestamp) (shares : List ModelShare) : Prediction :=
  let point := weightedTotal (shares.map fun s => (s.weight, s.estimate))
  let std := ensembleStd (shares.map fun s => (s.weight, s.residualStd))
  let interval := bounds point std (quantile level)
  { zone := zone
    horizon := hours
    point := point
    lower := interval.1
    upper := interval.2
    level := level
    token := token
    generatedAt := now
    source := .models weightsVersion generation shares }

/-- Forecast of a real zone, at a confidence level. -/
def zoneForecast (level : Float) (r : Registry) (zone : String) (hours : Nat) (s : NamedSnapshot)
    (now : Timestamp) : Asked Prediction :=
  match r.load zone with
  | .error failure => ⟨[], fail failure⟩
  | .ok e =>
      let range := e.horizons
      if hours < range.least ∨ range.greatest < hours then
        ⟨[], fail (.horizonOutOfRange zone hours range.least range.greatest)⟩
      else if (s.snapshot.zone? zone).isNone then
        ⟨[], fail (.invalidFeatures zone ("snapshot " ++ s.token ++ " has no features for this zone"))⟩
      else
        (modelShares zone s.snapshot hours e (e.manifest.weights.effective e.variants)).map
          (predictionOfShares level r.generation zone hours s.token e.manifest.weights.version now)

end GridLoad
