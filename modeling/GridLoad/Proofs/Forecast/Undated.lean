import Mathlib.Data.List.Forall2
import GridLoad.Group.Resolve
import GridLoad.Proofs.Forecast.Failures
import GridLoad.Serving.Setup

/-!
Forecasts without a cache, and what makes two outcomes the same but for the time at which they were computed.
-/

set_option autoImplicit false

namespace GridLoad

open GridLoad.Time (Timestamp)

def Prediction.undated (p : Prediction) : Prediction := { p with generatedAt := ⟨0, 0⟩ }

-- The same outcome, computed at one time or another.
def Agree (a b : Outcome Prediction) : Prop := a.map Prediction.undated = b.map Prediction.undated

theorem agree_refl (a : Outcome Prediction) : Agree a a := rfl

theorem agree_symm {a b : Outcome Prediction} (same : Agree a b) : Agree b a := Eq.symm same

theorem agree_trans {a b c : Outcome Prediction} (first : Agree a b) (second : Agree b c) : Agree a c :=
  Eq.trans first second

theorem agree_ok_iff {a : Outcome Prediction} {p : Prediction} :
    Agree a (.ok p) ↔ ∃ q, a = .ok q ∧ q.undated = p.undated := by
  cases a <;> simp [Agree, Except.map]

theorem agree_error_iff {a : Outcome Prediction} {halt : Halt} : Agree a (.error halt) ↔ a = .error halt := by
  cases a <;> simp [Agree, Except.map]

namespace Prediction

variable {p q : Prediction}

theorem undated_aim (same : p.undated = q.undated) :
    p.zone = q.zone ∧ p.horizon = q.horizon ∧ p.token = q.token := by
  cases p
  cases q
  simp_all [undated]

end Prediction

theorem zone_forecast_shape {level : Float} {r : Registry} {zone : String} {hours : Nat} {s : NamedSnapshot}
    {now : Timestamp} {p : Prediction} (computed : (zoneForecast level r zone hours s now).outcome = .ok p) :
    ∃ version shares, p = predictionOfShares level r.generation zone hours s.token version now shares := by
  obtain ⟨e, shares, _, _, shape⟩ := zone_forecast_computed computed
  exact ⟨e.manifest.weights.version, shares, shape⟩

-- Parts of a virtual zone's forecast that differ in no more than their times.
def SameParts : List (Prediction × Float) → List (Prediction × Float) → Prop :=
  List.Forall₂ fun a b => a.1.undated = b.1.undated ∧ a.2 = b.2

theorem same_parts_map {parts others : List (Prediction × Float)} (same : SameParts parts others) {α : Type}
    {f : Prediction × Float → α} (blind : ∀ p w, f (p, w) = f (p.undated, w)) : parts.map f = others.map f := by
  induction same with
  | nil => rfl
  | @cons a b _ _ head _ ih =>
      have first : f a = f b := by
        rw [show a = (a.1, a.2) from rfl, show b = (b.1, b.2) from rfl, blind, blind b.1, head.1, head.2]
      simp [first, ih]

theorem aggregate_undated {group : String} {horizon : Nat} {token : Token} {combination : Combination}
    {parts others : List (Prediction × Float)} {now later : Timestamp} (same : SameParts parts others) :
    (aggregate group horizon token combination parts now).undated =
      (aggregate group horizon token combination others later).undated := by
  have points := same_parts_map same (f := fun p => p.1.point) fun _ _ => rfl
  have lowers := same_parts_map same (f := fun p => p.1.lowerHalf) fun _ _ => rfl
  have uppers := same_parts_map same (f := fun p => p.1.upperHalf) fun _ _ => rfl
  have shares := same_parts_map same (f := fun p => p.1.memberShare p.2) fun _ _ => rfl
  have levels := same_parts_map same (f := fun p => p.1.level) fun _ _ => rfl
  have level : (parts.head?.map fun p => p.1.level) = others.head?.map fun p => p.1.level := by
    rw [← List.head?_map, ← List.head?_map, levels]
  simp only [aggregate, Prediction.undated, points, lowers, uppers, shares, level]

-- The forecast of a zone that is computed anew with everything it rests on.
def uncached (setup : Setup) (r : Registry) (zone : String) (horizon : Nat) (s : NamedSnapshot) (now : Timestamp) :
    Outcome Prediction :=
  let alone := fun zone => (zoneForecast setup.settings.confidenceLevel r zone horizon s now).outcome
  match setup.catalog.get? zone with
  | none => alone zone
  | some g => (groupForecast (m := Id) setup.settings.combination alone g horizon s.token now).1

end GridLoad
