import GridLoad.Proofs.Feature.Overridden
import GridLoad.Proofs.Forecast.Decided
import GridLoad.Proofs.Forecast.Failures
import GridLoad.Time.Written

/-!
Where a forecast breaks off instead of being answered. The target time is taken for every feature that is looked up,
also for one that does not follow from it, so a horizon that goes past the last day of the calendar ends the computation
in the first model. Nothing else does.
-/

set_option autoImplicit false

namespace GridLoad

open GridLoad.Time (Timestamp greatestDay)

section

variable {α : Type} {past : Prop} {out : Outcome α}

-- A computation that breaks off on one condition, and has a value or a failure to answer with otherwise.
structure AnsweredUnless (past : Prop) (out : Outcome α) : Prop where
  breaks : past → out = .error .pastCalendar
  answered : ¬ past → (∃ x, out = .ok x) ∨ ∃ failure, out = fail failure

theorem answered_by_zone {s : Snapshot} {hours : Nat}
    (kinds : ∀ halt, out = .error halt → halt.OfZone s hours) (inside : s.observedAt.addHours? hours ≠ none) :
    (∃ x, out = .ok x) ∨ ∃ failure, out = fail failure := by
  cases out with
  | ok x => exact .inl ⟨x, rfl⟩
  | error halt =>
      have kind := kinds halt rfl
      cases halt with
      | failed failure => exact .inr ⟨failure, rfl⟩
      | pastCalendar => exact absurd kind inside
      | outOfTime => exact absurd kind id

end

-- The first second after the last day of the calendar is reached.
def PastCalendar (t : Timestamp) (hours : Nat) : Prop :=
  (greatestDay + 1) * Timestamp.perDay ≤ t.seconds + 3600 * hours

theorem past_calendar {t : Timestamp} {hours : Nat} : t.addHours? hours = none ↔ PastCalendar t hours := by
  unfold Timestamp.addHours? PastCalendar
  dsimp only
  generalize (if 0 < hours && t.isLeapSecond then t.nanos - Timestamp.perSecond else t.nanos) = nanos
  split
  · rename_i inside
    refine iff_of_false (by simp) fun past => ?_
    simp only [Timestamp.day, Timestamp.perDay] at inside past
    omega
  · rename_i outside
    refine iff_of_true rfl ?_
    simp only [Timestamp.day, Timestamp.perDay] at outside ⊢
    omega

section

variable {zone : String} {s : Snapshot} {hours : Nat}

theorem raw_value_breaks (past : s.observedAt.addHours? hours = none) (f : Feature) :
    rawValue zone f s hours = .error .pastCalendar := by
  simp only [rawValue, past]

theorem model_inputs_break (past : s.observedAt.addHours? hours = none) {schema : List Feature}
    (some_feature : schema ≠ []) : modelInputs zone schema s hours = .error .pastCalendar := by
  obtain ⟨first, rest, rfl⟩ := List.exists_cons_of_ne_nil some_feature
  rw [modelInputs, List.mapM_cons, raw_value_breaks past]
  rfl

theorem model_shares_break (past : s.observedAt.addHours? hours = none) {e : ZoneEntry} {v : Variant} {m : Model}
    {weight : Float} {rest : List (Variant × Float)} (held : e.model? v = some m)
    (some_feature : m.metadata.features ≠ []) :
    modelShares zone s hours e ((v, weight) :: rest) = ⟨[], .error .pastCalendar⟩ := by
  simp only [modelShares, held, modelShare, model_inputs_break past some_feature]

end

section

variable {level : Float} {r : Registry} {zone : String} {hours : Nat} {s : NamedSnapshot} {now : Timestamp}

-- A zone that can serve the horizon and has features: all that is checked before its models are asked.
structure ReachesModels (r : Registry) (zone : String) (hours : Nat) (s : Snapshot) : Prop where
  inside : ∃ e, r.load zone = .ok e ∧ ∀ held ∈ e.models, held.2.metadata.horizon.contains hours = true
  present : s.zone? zone ≠ none

theorem forecast_breaks (words : ∀ e, r.load zone = .ok e → e.Words)
    (trained : ∀ e, r.load zone = .ok e → ∀ held ∈ e.models, held.2.metadata.features ≠ [])
    (past : s.snapshot.observedAt.addHours? hours = none) (reaches : ReachesModels r zone hours s.snapshot) :
    zoneForecast level r zone hours s now = ⟨[], .error .pastCalendar⟩ := by
  obtain ⟨⟨e, loaded, inside⟩, present⟩ := reaches
  rw [forecast_inside (words e loaded) loaded inside present]
  obtain ⟨held, rest, models⟩ := List.exists_cons_of_ne_nil (load_models loaded)
  have named := effective_names e.manifest.weights e.variants
  rw [ZoneEntry.variants, models] at named
  obtain ⟨⟨v, weight⟩, others, weights, rfl, _⟩ := List.map_eq_cons_iff.mp named
  have first : held ∈ e.models := models ▸ List.mem_cons_self
  rw [ZoneEntry.variants, models, weights,
    model_shares_break past (models_held held first) (trained e loaded held first)]
  rfl

theorem breaks_reaching (words : ∀ e, r.load zone = .ok e → e.Words)
    (broken : (zoneForecast level r zone hours s now).outcome = .error .pastCalendar) :
    ReachesModels r zone hours s.snapshot := by
  rcases zone_forecast_cases level r zone hours s now with
    ⟨f, _, same⟩ | ⟨e, loaded, ⟨_, same⟩ | ⟨within, ⟨_, same⟩ | ⟨present, _⟩⟩⟩
  · cases same ▸ broken
  · cases same ▸ broken
  · cases same ▸ broken
  · exact ⟨⟨e, loaded, (horizons_inside (words e loaded) (load_models loaded)).mp within⟩, present⟩

end

/-- A feature's value, a model's inputs and a zone's forecast are each given or refused with a failure, whatever the
features are and whatever overrides them, unless the target time lies past the last day of the calendar. There they
break off: the value of any feature, the inputs of every model that was accepted, and the forecast if it comes to the
models. -/
theorem answered_unless_past_calendar (s : Snapshot) (zones : List String) (overrides : Values) (zone : String)
    (hours : Nat) :
    (∀ f, AnsweredUnless (PastCalendar s.observedAt hours) (rawValue zone f (s.withOverrides zones overrides) hours)) ∧
    (∀ (m : Metadata) (v : Variant), m.validate zone v = .ok () →
      AnsweredUnless (PastCalendar s.observedAt hours)
        (modelInputs zone m.features (s.withOverrides zones overrides) hours)) ∧
    ∀ (level : Float) (r : Registry) (token : Token) (now : Timestamp),
      (∀ e, r.load zone = .ok e → e.Words ∧ ∀ held ∈ e.models, held.2.metadata.validate zone held.1 = .ok ()) →
        AnsweredUnless
          (PastCalendar s.observedAt hours ∧ ReachesModels r zone hours (s.withOverrides zones overrides))
          (zoneForecast level r zone hours ⟨token, s.withOverrides zones overrides⟩ now).outcome := by
  rw [← Snapshot.observed_overridden s overrides zones]
  generalize s.withOverrides zones overrides = s
  simp only [← past_calendar]
  refine ⟨fun f => ⟨fun past => raw_value_breaks past f, ?_⟩, fun m v accepted => ⟨fun past => ?_, ?_⟩,
    fun level r token now sound => ⟨fun ⟨past, reaches⟩ => ?_, fun answers => ?_⟩⟩
  · exact answered_by_zone fun halt failed => raw_value_of_zone failed
  · exact model_inputs_break past (metadata_passes.mp accepted).some_feature
  · exact answered_by_zone fun halt failed => model_inputs_of_zone failed
  · have trained : ∀ e, r.load zone = .ok e → ∀ held ∈ e.models, held.2.metadata.features ≠ [] :=
      fun e loaded held member => (metadata_passes.mp ((sound e loaded).2 held member)).some_feature
    rw [forecast_breaks (s := ⟨token, s⟩) (fun e loaded => (sound e loaded).1) trained past reaches]
  · cases ended : (zoneForecast level r zone hours ⟨token, s⟩ now).outcome with
    | ok p => exact .inl ⟨p, rfl⟩
    | error halt =>
        have kind := zone_forecast_of_zone ended
        cases halt with
        | failed failure => exact .inr ⟨failure, rfl⟩
        | outOfTime => exact absurd kind id
        | pastCalendar => exact absurd ⟨kind, breaks_reaching (fun e loaded => (sound e loaded).1) ended⟩ answers

namespace Sample

def farSighted : Metadata := { metadata "SCE" .enhanced defaultFeatures with horizon := ⟨1, 4294967295⟩ }

def longRange : Registry := Registry.ofSteps 1 [.model "SCE" .enhanced (.constant farSighted 19631)]

theorem long_range_breaks :
    (∀ e, longRange.load "SCE" = .ok e →
      e.Words ∧ ∀ held ∈ e.models, held.2.metadata.validate "SCE" held.1 = .ok ()) ∧
    (zoneForecast 0.95 longRange "SCE" 4294967295 ⟨"", (snapshot tuesday).withOverrides [] .empty⟩ tuesday).outcome =
      .error .pastCalendar := by
  have sound : ∀ e, longRange.load "SCE" = .ok e →
      e.Words ∧ ∀ held ∈ e.models, held.2.metadata.validate "SCE" held.1 = .ok () := by
    intro e loaded
    have all : ∀ e ∈ longRange.find? "SCE", (∀ held ∈ e.models, held.2.metadata.horizon.greatest < wordLimit 32) ∧
        ∀ held ∈ e.models, held.2.metadata.validate "SCE" held.1 = .ok () := by
      decide +kernel
    exact all e (load_found loaded)
  have past : PastCalendar (snapshot tuesday).observedAt 4294967295 := past_calendar.mp (by decide)
  have reaches : ReachesModels longRange "SCE" 4294967295 ((snapshot tuesday).withOverrides [] .empty) :=
    ⟨⟨_, rfl, by decide +kernel⟩, by decide +kernel⟩
  obtain ⟨_, _, forecasts⟩ := answered_unless_past_calendar (snapshot tuesday) [] .empty "SCE" 4294967295
  exact ⟨sound, (forecasts 0.95 longRange "" tuesday sound).breaks ⟨past, reaches⟩⟩

-- A horizon of some 490 millennia that its model was trained for, as far as the checks can tell.
theorem long_range_unanswered : farSighted.validate "SCE" .enhanced = .ok () ∧
    farSighted.horizon.contains 4294967295 = true ∧
    Timestamp.ofText? "2024-07-09T14:00:00Z" = some (snapshot tuesday).observedAt ∧
    ¬ ((∃ x, rawValue "SCE" { name := "temperature_f" } (snapshot tuesday) 4294967295 = .ok x) ∨
      ∃ f, rawValue "SCE" { name := "temperature_f" } (snapshot tuesday) 4294967295 = fail f) ∧
    ¬ ((∃ x, modelInputs "SCE" farSighted.features (snapshot tuesday) 4294967295 = .ok x) ∨
      ∃ f, modelInputs "SCE" farSighted.features (snapshot tuesday) 4294967295 = fail f) ∧
    ¬ ((∃ p, (zoneForecast 0.95 longRange "SCE" 4294967295 ⟨"", snapshot tuesday⟩ tuesday).outcome = .ok p) ∨
      ∃ f, (zoneForecast 0.95 longRange "SCE" 4294967295 ⟨"", snapshot tuesday⟩ tuesday).outcome = fail f) := by
  have past : (snapshot tuesday).observedAt.addHours? 4294967295 = none := by decide
  have value : rawValue "SCE" { name := "temperature_f" } (snapshot tuesday) 4294967295 = .error .pastCalendar :=
    raw_value_breaks past _
  have inputs : modelInputs "SCE" farSighted.features (snapshot tuesday) 4294967295 = .error .pastCalendar :=
    model_inputs_break past (by decide +kernel)
  have forecast : (zoneForecast 0.95 longRange "SCE" 4294967295 ⟨"", snapshot tuesday⟩ tuesday).outcome =
      .error .pastCalendar := rfl
  rw [value, inputs, forecast]
  refine ⟨by decide +kernel, by decide, by decide +kernel, ?_, ?_, ?_⟩ <;> simp [fail]

end Sample

end GridLoad
