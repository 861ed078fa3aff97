import GridLoad.Forecast.Zone

/-!
What a zone's own forecast comes to, check by check, and which failures it can end with. What is said of a model that is
corrupt begins with its variant.
-/

set_option autoImplicit false

namespace GridLoad

open GridLoad.Time (Timestamp)

inductive Failure.OfZone : Failure → Prop
  | noModel (zone : String) : OfZone (.noModel zone)
  | corrupt (zone : String) (v : Variant) (rest : String) : OfZone (.corruptModel zone (v.name ++ rest))
  | features (zone reason : String) : OfZone (.invalidFeatures zone reason)
  | range (zone : String) (hours least greatest : Nat) : OfZone (.horizonOutOfRange zone hours least greatest)

-- A failure of the zone itself, or a target time that lies past the calendar.
def Halt.OfZone (s : Snapshot) (hours : Nat) : Halt → Prop
  | .failed f => f.OfZone
  | .pastCalendar => s.observedAt.addHours? hours = none
  | .outOfTime => False

variable {zone : String} {hours : Nat} {s : Snapshot}

theorem issues_begin {e : ZoneEntry} {issue : String} (listed : issue ∈ e.issues) :
    ∃ (v : Variant) (rest : String), issue = v.name ++ rest := by
  obtain ⟨v, _, found⟩ := List.mem_filterMap.mp listed
  obtain ⟨reason, _, rfl⟩ := Option.map_eq_some_iff.mp found
  exact ⟨v, ": " ++ reason, by rw [String.append_assoc]⟩

theorem unavailable_of_zone (e : ZoneEntry) (zone : String) : (e.unavailable zone).OfZone := by
  unfold ZoneEntry.unavailable
  cases all : e.issues with
  | nil => exact .noModel zone
  | cons issue rest =>
      obtain ⟨v, more, rfl⟩ := issues_begin (all ▸ List.mem_cons_self : issue ∈ e.issues)
      simp only [List.isEmpty_cons, Bool.false_eq_true, if_false, String.intercalate_cons_append]
      exact .corrupt zone v _

theorem load_cases (r : Registry) (zone : String) :
    r.find? zone = none ∧ r.load zone = .error (.noModel zone) ∨
    ∃ e, r.find? zone = some e ∧
      (e.isAvailable = true ∧ r.load zone = .ok e ∨ e.isAvailable = false ∧ r.load zone = .error (e.unavailable zone)) := by
  cases found : r.find? zone with
  | none => exact .inl ⟨rfl, by simp only [Registry.load, found]⟩
  | some e =>
      refine .inr ⟨e, rfl, ?_⟩
      cases available : e.isAvailable with
      | true => exact .inl ⟨rfl, by simp only [Registry.load, found, available, if_true]⟩
      | false => exact .inr ⟨rfl, by simp only [Registry.load, found, available, Bool.false_eq_true, if_false]⟩

theorem load_ok_iff {r : Registry} {e : ZoneEntry} :
    r.load zone = .ok e ↔ r.find? zone = some e ∧ e.isAvailable = true := by
  rcases load_cases r zone with ⟨none, failed⟩ | ⟨held, found, ⟨available, loaded⟩ | ⟨idle, failed⟩⟩
  · simp [none, failed]
  · rw [loaded, found, Except.ok.injEq, Option.some.injEq]
    exact ⟨fun same => ⟨same, same ▸ available⟩, And.left⟩
  · rw [failed, found, Option.some.injEq]
    exact ⟨nofun, fun ⟨same, available⟩ => absurd (same ▸ available) (by simp [idle])⟩

theorem load_of_zone {r : Registry} {f : Failure} (failed : r.load zone = .error f) : f.OfZone := by
  rcases load_cases r zone with ⟨_, same⟩ | ⟨e, _, ⟨_, same⟩ | ⟨_, same⟩⟩ <;> cases same.symm.trans failed
  · exact .noModel zone
  · exact unavailable_of_zone e zone

theorem raw_value_of_zone {f : Feature} {halt : Halt} (failed : rawValue zone f s hours = .error halt) :
    halt.OfZone s hours := by
  unfold rawValue at failed
  split at failed
  · rename_i past
    cases failed
    exact past
  · simp only at failed
    split at failed
    · cases failed
      exact .features zone _
    · rename_i value _
      cases checked : f.check value with
      | ok x =>
          rw [checked] at failed
          cases failed
      | error fault =>
          rw [checked] at failed
          cases failed
          exact .features zone _

theorem model_inputs_of_zone {schema : List Feature} {halt : Halt}
    (failed : modelInputs zone schema s hours = .error halt) : halt.OfZone s hours := by
  unfold modelInputs at failed
  induction schema with
  | nil => cases failed
  | cons f rest ih =>
      rw [List.mapM_cons] at failed
      cases value : rawValue zone f s hours with
      | error early =>
          rw [value] at failed
          cases failed
          exact raw_value_of_zone value
      | ok x =>
          rw [value] at failed
          cases others : rest.mapM fun f => (rawValue zone f s hours).map f.standardize with
          | error later =>
              rw [others] at failed
              cases failed
              exact ih others
          | ok xs =>
              rw [others] at failed
              cases failed

theorem model_share_of_zone {v : Variant} {weight : Float} {m : Model} {halt : Halt}
    (failed : (modelShare zone s hours v weight m).outcome = .error halt) : halt.OfZone s hours := by
  unfold modelShare at failed
  split at failed
  · rename_i early inputs
    cases failed
    exact model_inputs_of_zone inputs
  · split at failed
    · cases failed
      have text : ∀ reason, v.name ++ " model failed to evaluate: " ++ reason =
          v.name ++ (" model failed to evaluate: " ++ reason) := fun reason => String.append_assoc
      rw [text]
      exact .corrupt zone v _
    · split at failed
      · cases failed
        exact .corrupt zone v _
      · cases failed

theorem model_shares_of_zone {e : ZoneEntry} {weights : List (Variant × Float)} {halt : Halt}
    (failed : (modelShares zone s hours e weights).outcome = .error halt) : halt.OfZone s hours := by
  induction weights with
  | nil => cases failed
  | cons head rest ih =>
      obtain ⟨v, weight⟩ := head
      rw [modelShares] at failed
      cases loaded : e.model? v with
      | none =>
          rw [loaded] at failed
          exact ih failed
      | some m =>
          rw [loaded] at failed
          cases first : (modelShare zone s hours v weight m).outcome with
          | error early =>
              simp only [first] at failed
              cases failed
              exact model_share_of_zone first
          | ok share =>
              simp only [first] at failed
              cases others : (modelShares zone s hours e rest).outcome with
              | error later =>
                  rw [others] at failed
                  cases failed
                  exact ih others
              | ok shares =>
                  rw [others] at failed
                  cases failed

-- Models see no more of a snapshot than the values of their features.
theorem model_shares_congr {s' : Snapshot} (values : ∀ f, rawValue zone f s hours = rawValue zone f s' hours)
    (e : ZoneEntry) (weights : List (Variant × Float)) :
    modelShares zone s hours e weights = modelShares zone s' hours e weights := by
  have share : ∀ v weight m, modelShare zone s hours v weight m = modelShare zone s' hours v weight m := by
    intro v weight m
    have inputs : modelInputs zone m.metadata.features s hours = modelInputs zone m.metadata.features s' hours := by
      simp only [modelInputs, values]
    simp only [modelShare, inputs]
  induction weights with
  | nil => rfl
  | cons head rest ih =>
      obtain ⟨v, weight⟩ := head
      simp only [modelShares, share, ih]

section

variable {level : Float} {r : Registry} {s : NamedSnapshot} {now : Timestamp}

-- What is checked before a model is asked, and that nothing else is.
theorem zone_forecast_cases (level : Float) (r : Registry) (zone : String) (hours : Nat) (s : NamedSnapshot)
    (now : Timestamp) :
    (∃ f, r.load zone = .error f ∧ zoneForecast level r zone hours s now = ⟨[], fail f⟩) ∨
    ∃ e, r.load zone = .ok e ∧
      ((hours < e.horizons.least ∨ e.horizons.greatest < hours) ∧ zoneForecast level r zone hours s now =
          ⟨[], fail (.horizonOutOfRange zone hours e.horizons.least e.horizons.greatest)⟩ ∨
        ¬ (hours < e.horizons.least ∨ e.horizons.greatest < hours) ∧
          (s.snapshot.zone? zone = none ∧ zoneForecast level r zone hours s now =
              ⟨[], fail (.invalidFeatures zone ("snapshot " ++ s.token ++ " has no features for this zone"))⟩ ∨
            s.snapshot.zone? zone ≠ none ∧ zoneForecast level r zone hours s now =
              (modelShares zone s.snapshot hours e (e.manifest.weights.effective e.variants)).map
                (predictionOfShares level r.generation zone hours s.token e.manifest.weights.version now))) := by
  cases loaded : r.load zone with
  | error f => exact .inl ⟨f, rfl, by simp only [zoneForecast, loaded]⟩
  | ok e =>
      refine .inr ⟨e, rfl, ?_⟩
      by_cases outside : hours < e.horizons.least ∨ e.horizons.greatest < hours
      · exact .inl ⟨outside, by simp only [zoneForecast, loaded, if_pos outside]⟩
      · refine .inr ⟨outside, ?_⟩
        by_cases absent : s.snapshot.zone? zone = none
        · exact .inl ⟨absent, by simp only [zoneForecast, loaded, if_neg outside, absent, Option.isNone_none, if_true]⟩
        · have present : ¬ (s.snapshot.zone? zone).isNone = true := by simpa using absent
          exact .inr ⟨absent, by simp only [zoneForecast, loaded, if_neg outside, if_neg present]⟩

theorem zone_forecast_of_zone {halt : Halt} (failed : (zoneForecast level r zone hours s now).outcome = .error halt) :
    halt.OfZone s.snapshot hours := by
  rcases zone_forecast_cases level r zone hours s now with
    ⟨f, missing, same⟩ | ⟨e, _, ⟨_, same⟩ | ⟨_, ⟨_, same⟩ | ⟨_, same⟩⟩⟩ <;> rw [same] at failed
  · cases failed
    exact load_of_zone missing
  · cases failed
    exact .range zone hours _ _
  · cases failed
    exact .features zone _
  · simp only [Asked.map] at failed
    cases shares : (modelShares zone s.snapshot hours e (e.manifest.weights.effective e.variants)).outcome with
    | error early =>
        rw [shares] at failed
        cases failed
        exact model_shares_of_zone shares
    | ok parts =>
        rw [shares] at failed
        cases failed

-- A forecast is made of the shares of all models of the zone's entry.
theorem zone_forecast_computed {p : Prediction} (computed : (zoneForecast level r zone hours s now).outcome = .ok p) :
    ∃ e shares, r.load zone = .ok e ∧
      (modelShares zone s.snapshot hours e (e.manifest.weights.effective e.variants)).outcome = .ok shares ∧
      p = predictionOfShares level r.generation zone hours s.token e.manifest.weights.version now shares := by
  rcases zone_forecast_cases level r zone hours s now with
    ⟨f, _, same⟩ | ⟨e, loaded, ⟨_, same⟩ | ⟨_, ⟨_, same⟩ | ⟨_, same⟩⟩⟩ <;> rw [same] at computed
  · cases computed
  · cases computed
  · cases computed
  · simp only [Asked.map] at computed
    cases made : (modelShares zone s.snapshot hours e (e.manifest.weights.effective e.variants)).outcome with
    | error halt =>
        rw [made] at computed
        cases computed
    | ok shares =>
        rw [made] at computed
        cases computed
        exact ⟨e, shares, loaded, made, rfl⟩

end

end GridLoad
