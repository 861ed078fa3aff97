import GridLoad.Proofs.Forecast.Failures
import GridLoad.Proofs.Model.Valid

/-!
The divisions of a forecast. A deviation is divided by the standard deviation of its feature, and the hours of a horizon
by those of the reference horizon. Where metadata are in order neither divisor is zero or infinite, so it makes no
difference what a division by such a number would give.
-/

set_option autoImplicit false

namespace GridLoad

open GridLoad.Time (Timestamp)

structure Division where
  scaled : Float → Float → Float
  growth : Nat → Nat → Float

namespace Division

def usual : Division := ⟨fun deviation std => deviation / std, fun hours reference => .ofNat hours / .ofNat reference⟩

-- A division that is right for finite positive deviations and for reference horizons of at least an hour, and
-- anything at all otherwise.
structure RightWhereDefined (d : Division) : Prop where
  scaled : ∀ deviation std, std.isFinite = true → std > 0 → d.scaled deviation std = usual.scaled deviation std
  growth : ∀ hours reference, reference ≠ 0 → d.growth hours reference = usual.growth hours reference

variable (d : Division)

def inputs (zone : String) (schema : List Feature) (s : Snapshot) (hours : Nat) : Outcome (List Float) :=
  schema.mapM fun f => (rawValue zone f s hours).map fun value => d.scaled (value - f.mean) f.std

def stdAt (r : Residuals) (hours : Nat) : Float :=
  match r.measured.get? hours with
  | some std => std
  | none => r.std * (d.growth (max hours 1) r.referenceHours).sqrt

def share (zone : String) (s : Snapshot) (hours : Nat) (v : Variant) (weight : Float) (m : Model) : Asked ModelShare :=
  match d.inputs zone m.metadata.features s hours with
  | .error halt => ⟨[], .error halt⟩
  | .ok inputs =>
      match m.estimate inputs with
      | .error reason => ⟨[v], fail (.corruptModel zone (v.name ++ " model failed to evaluate: " ++ reason))⟩
      | .ok estimate =>
          if !estimate.isFinite then
            ⟨[v], fail (.corruptModel zone (v.name ++ " model produced a non-finite estimate"))⟩
          else
            ⟨[v], .ok ⟨v, m.metadata.modelVersion, weight, estimate, d.stdAt m.metadata.residuals hours⟩⟩

def shares (zone : String) (s : Snapshot) (hours : Nat) (e : ZoneEntry) : List (Variant × Float) → Asked (List ModelShare)
  | [] => ⟨[], .ok []⟩
  | (v, weight) :: rest =>
      match e.model? v with
      | none => shares zone s hours e rest
      | some m =>
          let first := d.share zone s hours v weight m
          match first.outcome with
          | .error halt => ⟨first.variants, .error halt⟩
          | .ok share =>
              let others := shares zone s hours e rest
              ⟨first.variants ++ others.variants, others.outcome.map (share :: ·)⟩

-- The forecast of a real zone as it comes out with a division.
def forecast (level : Float) (r : Registry) (zone : String) (hours : Nat) (s : NamedSnapshot) (now : Timestamp) :
    Asked Prediction :=
  match r.load zone with
  | .error failure => ⟨[], fail failure⟩
  | .ok e =>
      let range := e.horizons
      if hours < range.least ∨ range.greatest < hours then
        ⟨[], fail (.horizonOutOfRange zone hours range.least range.greatest)⟩
      else if (s.snapshot.zone? zone).isNone then
        ⟨[], fail (.invalidFeatures zone ("snapshot " ++ s.token ++ " has no features for this zone"))⟩
      else
        (d.shares zone s.snapshot hours e (e.manifest.weights.effective e.variants)).map
          (predictionOfShares level r.generation zone hours s.token e.manifest.weights.version now)

end Division

section

variable {d : Division} {zone : String} {s : Snapshot} {hours : Nat} {v : Variant} {weight : Float} {e : ZoneEntry}

theorem load_found {r : Registry} (loaded : r.load zone = .ok e) : r.find? zone = some e := (load_ok_iff.mp loaded).1

theorem usual_shares (weights : List (Variant × Float)) :
    Division.usual.shares zone s hours e weights = modelShares zone s hours e weights := by
  induction weights with
  | nil => rfl
  | cons first rest ih =>
      obtain ⟨v, weight⟩ := first
      unfold Division.shares modelShares
      generalize Division.usual.shares zone s hours e rest = others at ih ⊢
      subst ih
      cases e.model? v <;> rfl

theorem usual_forecast : Division.usual.forecast = zoneForecast := by
  funext level r zone hours s now
  unfold Division.forecast zoneForecast
  cases r.load zone with
  | error failure => rfl
  | ok e => simp only [usual_shares]

theorem inputs_by (right : d.RightWhereDefined) {schema : List Feature} (valid : ∀ f ∈ schema, f.Valid) :
    d.inputs zone schema s hours = Division.usual.inputs zone schema s hours := by
  have same : ∀ f ∈ schema, (fun value => d.scaled (value - f.mean) f.std) =
      fun value => Division.usual.scaled (value - f.mean) f.std :=
    fun f member => funext fun value => right.scaled _ _ (valid f member).std_finite (valid f member).std_positive
  unfold Division.inputs
  induction schema with
  | nil => rfl
  | cons f rest ih =>
      rw [List.forall_mem_cons] at valid same
      rw [List.mapM_cons, List.mapM_cons, same.1, ih valid.2 same.2]

theorem std_at_by (right : d.RightWhereDefined) {r : Residuals} (valid : r.Valid) :
    d.stdAt r hours = Division.usual.stdAt r hours := by
  unfold Division.stdAt
  rw [right.growth _ _ valid.reference]

theorem share_by (right : d.RightWhereDefined) {m : Model} (features : ∀ f ∈ m.metadata.features, f.Valid)
    (residuals : m.metadata.residuals.Valid) :
    d.share zone s hours v weight m = Division.usual.share zone s hours v weight m := by
  unfold Division.share
  rw [inputs_by right features, std_at_by right residuals]

-- A zone whose models can all be computed with.
structure ZoneEntry.Sound (e : ZoneEntry) : Prop where
  features : ∀ v m, e.model? v = some m → ∀ f ∈ m.metadata.features, f.Valid
  residuals : ∀ v m, e.model? v = some m → m.metadata.residuals.Valid

-- Only models that are held are asked.
theorem shares_by (right : d.RightWhereDefined) (sound : e.Sound) (weights : List (Variant × Float)) :
    d.shares zone s hours e weights = Division.usual.shares zone s hours e weights := by
  induction weights with
  | nil => rfl
  | cons first rest ih =>
      obtain ⟨v, weight⟩ := first
      unfold Division.shares
      rw [ih]
      cases found : e.model? v with
      | none => rfl
      | some m => simp only [share_by right (sound.features v m found) (sound.residuals v m found)]

theorem forecast_by (right : d.RightWhereDefined) {r : Registry} (sound : ∀ e, r.find? zone = some e → e.Sound)
    (level : Float) (hours : Nat) (s : NamedSnapshot) (now : Timestamp) :
    d.forecast level r zone hours s now = zoneForecast level r zone hours s now := by
  rw [← usual_forecast]
  unfold Division.forecast
  cases loaded : r.load zone with
  | error failure => rfl
  | ok e => simp only [shares_by right (sound e (load_found loaded))]

end

end GridLoad
