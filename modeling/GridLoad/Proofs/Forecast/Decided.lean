import GridLoad.Forecast.Zone
import GridLoad.Proofs.Feature.Supplied
import GridLoad.Proofs.Forecast.Division
import GridLoad.Sample

/-!
What decides the forecast of a zone. The checks are made in one order, and the first that fails is what the forecast
ends with; where none fails, the loaded models each have a part in it. A model is asked once its inputs have passed, and
with nothing else.
-/

set_option autoImplicit false

namespace GridLoad

open GridLoad.Time (Timestamp)

section Shares

variable (zone : String) (s : Snapshot) (hours : Nat) (target : Timestamp)

-- The part of a loaded model, estimated from the inputs of its schema.
structure ModelShare.Made (v : Variant) (m : Model) (share : ModelShare) : Prop where
  variant : share.variant = v
  modelVersion : share.modelVersion = m.metadata.modelVersion
  estimate : ∃ inputs, Inputs zone s hours target m.metadata.features inputs ∧ m.estimate inputs = .ok share.estimate
  finite : share.estimate.isFinite = true
  residualStd : share.residualStd = m.metadata.residuals.stdAt hours

-- Why a loaded model has no part, and whether it was asked before that was known.
inductive Withheld (v : Variant) (m : Model) : List Variant → Failure → Prop
  | feature {fault : FeatureFault} (first : FirstFault zone s hours target m.metadata.features fault) :
      Withheld v m [] (.invalidFeatures zone fault.message)
  | silent {inputs : List Float} {reason : String} (given : Inputs zone s hours target m.metadata.features inputs)
      (silent : m.estimate inputs = .error reason) :
      Withheld v m [v] (.corruptModel zone (v.name ++ " model failed to evaluate: " ++ reason))
  | notFinite {inputs : List Float} {estimate : Float} (given : Inputs zone s hours target m.metadata.features inputs)
      (estimated : m.estimate inputs = .ok estimate) (infinite : estimate.isFinite = false) :
      Withheld v m [v] (.corruptModel zone (v.name ++ " model produced a non-finite estimate"))

end Shares

section

variable {zone : String} {s : Snapshot} {hours : Nat} {target : Timestamp} {v : Variant} {m : Model} {weight : Float}
  {asked : List Variant} {share : ModelShare} {failure : Failure} {e : ZoneEntry} {models : List (Variant × Model)}
  {shares : List ModelShare} (reached : s.observedAt.addHours? hours = some target)

include reached

theorem model_share_made (made : share.Made zone s hours target v m) :
    modelShare zone s hours v share.weight m = ⟨[v], .ok share⟩ := by
  obtain ⟨variant, version, ⟨inputs, given, estimated⟩, finite, std⟩ := made
  have built := (model_inputs_pass reached).mpr given
  simp only [modelShare, built, estimated, finite, Bool.not_true, Bool.false_eq_true, if_false, ← variant, ← version,
    ← std]

theorem model_share_withheld (withheld : Withheld zone s hours target v m asked failure) :
    modelShare zone s hours v weight m = ⟨asked, fail failure⟩ := by
  cases withheld with
  | feature first =>
      have refused := (model_inputs_refused reached).mpr ⟨_, first, rfl⟩
      simp only [modelShare, refused, refuse, fail]
  | silent given silent =>
      have built := (model_inputs_pass reached).mpr given
      simp only [modelShare, built, silent]
  | notFinite given estimated infinite =>
      have built := (model_inputs_pass reached).mpr given
      simp only [modelShare, built, estimated, infinite, Bool.not_false, if_true]

theorem made_or_withheld (v : Variant) (m : Model) (weight : Float) :
    (∃ share : ModelShare, share.weight = weight ∧ share.Made zone s hours target v m) ∨
      ∃ asked failure, Withheld zone s hours target v m asked failure := by
  cases built : modelInputs zone m.metadata.features s hours with
  | error halt =>
      obtain ⟨fault, first, _⟩ := (model_inputs_refused reached).mp built
      exact .inr ⟨_, _, .feature first⟩
  | ok inputs =>
      have given := (model_inputs_pass reached).mp built
      cases estimated : m.estimate inputs with
      | error reason => exact .inr ⟨_, _, .silent given estimated⟩
      | ok estimate =>
          cases finite : estimate.isFinite with
          | false => exact .inr ⟨_, _, .notFinite given estimated finite⟩
          | true =>
              exact .inl ⟨⟨v, m.metadata.modelVersion, weight, estimate, m.metadata.residuals.stdAt hours⟩, rfl,
                rfl, rfl, ⟨inputs, given, estimated⟩, finite, rfl⟩

-- Every model is asked where each has a part.
theorem model_shares_made (loaded : ∀ held ∈ models, e.model? held.1 = some held.2)
    (made : List.Forall₂ (fun held share => ModelShare.Made zone s hours target held.1 held.2 share) models shares) :
    modelShares zone s hours e (shares.map fun share => (share.variant, share.weight)) =
      ⟨models.map (·.1), .ok shares⟩ := by
  induction made with
  | nil => rfl
  | @cons held share models shares here _ ih =>
      obtain ⟨first, later⟩ := List.forall_mem_cons.mp loaded
      simp only [List.map_cons, modelShares, first, here.variant, model_share_made reached here, ih later]
      rfl

-- Those before the first that has no part are asked, and that one itself if its inputs pass.
theorem model_shares_withheld {before after : List (Variant × Model)} {weights : List (Variant × Float)}
    (loaded : ∀ held ∈ before ++ (v, m) :: after, e.model? held.1 = some held.2)
    (named : weights.map (·.1) = (before ++ (v, m) :: after).map (·.1))
    (made : ∀ held ∈ before, ∃ share : ModelShare, share.Made zone s hours target held.1 held.2)
    (withheld : Withheld zone s hours target v m asked failure) :
    modelShares zone s hours e weights = ⟨before.map (·.1) ++ asked, fail failure⟩ := by
  induction before generalizing weights with
  | nil =>
      obtain ⟨⟨w, weight⟩, rest, rfl, rfl, _⟩ := List.map_eq_cons_iff.mp named
      have here : e.model? w = some m := loaded (w, m) List.mem_cons_self
      simp only [modelShares, here, model_share_withheld reached withheld]
      rfl
  | cons held before ih =>
      obtain ⟨⟨w, weight⟩, rest, rfl, rfl, others⟩ := List.map_eq_cons_iff.mp named
      obtain ⟨here, later⟩ := List.forall_mem_cons.mp loaded
      obtain ⟨⟨share, part⟩, parts⟩ := List.forall_mem_cons.mp made
      have weighted : ModelShare.Made zone s hours target held.1 held.2 { share with weight := weight } :=
        ⟨part.variant, part.modelVersion, part.estimate, part.finite, part.residualStd⟩
      have first := model_share_made reached weighted
      simp only at first
      simp only [modelShares, here, first, ih later others parts]
      rfl

-- All models have a part, or one is the first that has none.
theorem made_or_first {weights : List (Variant × Float)} (named : weights.map (·.1) = models.map (·.1)) :
    (∃ shares, List.Forall₂ (fun held share => ModelShare.Made zone s hours target held.1 held.2 share) models shares ∧
      (shares.map fun share => (share.variant, share.weight)) = weights) ∨
    ∃ before v m after asked failure, models = before ++ (v, m) :: after ∧
      (∀ held ∈ before, ∃ share : ModelShare, share.Made zone s hours target held.1 held.2) ∧
      Withheld zone s hours target v m asked failure := by
  induction models generalizing weights with
  | nil => exact .inl ⟨[], .nil, (List.map_eq_nil_iff.mp named).symm⟩
  | cons held rest ih =>
      obtain ⟨⟨w, weight⟩, others, rfl, rfl, later⟩ := List.map_eq_cons_iff.mp named
      rcases made_or_withheld reached held.1 held.2 weight with ⟨share, rfl, made⟩ | ⟨asked, failure, withheld⟩
      · rcases ih later with ⟨shares, parts, weighted⟩ | ⟨before, v, m, after, asked, failure, rfl, parts, withheld⟩
        · exact .inl ⟨share :: shares, .cons made parts, by rw [List.map_cons, weighted, made.variant]⟩
        · exact .inr ⟨held :: before, v, m, after, asked, failure, rfl, List.forall_mem_cons.mpr ⟨⟨share, made⟩, parts⟩,
            withheld⟩
      · exact .inr ⟨[], held.1, held.2, rest, asked, failure, rfl, nofun, withheld⟩

end

section Entry

variable {e : ZoneEntry} {v : Variant} {m : Model}

theorem models_held : ∀ held ∈ e.models, e.model? held.1 = some held.2 := by
  intro held member
  obtain ⟨v, _, there⟩ := List.mem_filterMap.mp member
  obtain ⟨m, loaded, rfl⟩ := Option.map_eq_some_iff.mp there
  exact loaded

theorem effective_names {α : Type} [Add α] [Neg α] [Div α] [OfNat α 0] [OfNat α 1] [LE α] [DecidableLE α]
    (w : Weights α) (available : List Variant) : (w.effective available).map (·.1) = available := by
  unfold Weights.effective
  simp only
  split <;> simp [Function.comp_def]

theorem load_models {r : Registry} {zone : String} (loaded : r.load zone = .ok e) : e.models ≠ [] := by
  have available := (load_ok_iff.mp loaded).2
  exact fun none => by simp [ZoneEntry.isAvailable, none] at available

-- Models trained for horizons that are words.
def ZoneEntry.Words (e : ZoneEntry) : Prop := ∀ held ∈ e.models, held.2.metadata.horizon.greatest < wordLimit 32

-- The horizons that no model excludes lie between the greatest of the first ones and the least of the last ones.
theorem horizons_common (words : e.Words) (some_model : e.models ≠ []) :
    (e.models.map fun held => held.2.metadata.horizon.least).max? = some e.horizons.least ∧
      (e.models.map fun held => held.2.metadata.horizon.greatest).min? = some e.horizons.greatest := by
  have both : ∀ (models : List (Variant × Model)) (range : HorizonRange),
      models.foldl (fun r m => (⟨max r.least m.2.metadata.horizon.least, min r.greatest m.2.metadata.horizon.greatest⟩ :
        HorizonRange)) range =
      ⟨(models.map fun held => held.2.metadata.horizon.least).foldl max range.least,
        (models.map fun held => held.2.metadata.horizon.greatest).foldl min range.greatest⟩ := by
    intro models
    induction models with
    | nil => exact fun range => rfl
    | cons first rest ih => exact fun range => ih _
  unfold ZoneEntry.horizons
  rw [both]
  cases models : e.models with
  | nil => exact absurd models some_model
  | cons first rest =>
      have word := words first (models ▸ List.mem_cons_self)
      simp only [List.map_cons, List.max?_cons', List.min?_cons', List.foldl_cons, Nat.zero_max,
        Nat.min_eq_right (Nat.le_sub_one_of_lt word), and_self]

theorem horizons_inside (words : e.Words) (some_model : e.models ≠ []) {hours : Nat} :
    ¬ (hours < e.horizons.least ∨ e.horizons.greatest < hours) ↔
      ∀ held ∈ e.models, held.2.metadata.horizon.contains hours = true := by
  obtain ⟨least, greatest⟩ := horizons_common words some_model
  rw [not_or, Nat.not_lt, Nat.not_lt, List.max?_le_iff least, List.le_min?_iff greatest]
  simp only [List.forall_mem_map, HorizonRange.contains, Bool.and_eq_true, decide_eq_true_eq]
  exact forall₂_and.symm

end Entry

-- What a forecast ends with, by the first check that fails, and with which models asked.
inductive Decided (level : Float) (r : Registry) (zone : String) (hours : Nat) (s : NamedSnapshot)
    (target now : Timestamp) : Asked Prediction → Prop
  | unavailable {failure : Failure} (unavailable : r.load zone = .error failure) :
      Decided level r zone hours s target now ⟨[], fail failure⟩
  | outside {e : ZoneEntry} {least greatest : Nat} (loaded : r.load zone = .ok e)
      (outside : ∃ held ∈ e.models, held.2.metadata.horizon.contains hours = false)
      (latest : (e.models.map fun held => held.2.metadata.horizon.least).max? = some least)
      (earliest : (e.models.map fun held => held.2.metadata.horizon.greatest).min? = some greatest) :
      Decided level r zone hours s target now ⟨[], fail (.horizonOutOfRange zone hours least greatest)⟩
  | featureless {e : ZoneEntry} (loaded : r.load zone = .ok e)
      (inside : ∀ held ∈ e.models, held.2.metadata.horizon.contains hours = true)
      (featureless : s.snapshot.zone? zone = none) :
      Decided level r zone hours s target now
        ⟨[], fail (.invalidFeatures zone ("snapshot " ++ s.token ++ " has no features for this zone"))⟩
  | withheld {e : ZoneEntry} {before after : List (Variant × Model)} {v : Variant} {m : Model} {asked : List Variant}
      {failure : Failure} (loaded : r.load zone = .ok e)
      (inside : ∀ held ∈ e.models, held.2.metadata.horizon.contains hours = true)
      (present : s.snapshot.zone? zone ≠ none) (split : e.models = before ++ (v, m) :: after)
      (made : ∀ held ∈ before, ∃ share : ModelShare, share.Made zone s.snapshot hours target held.1 held.2)
      (withheld : Withheld zone s.snapshot hours target v m asked failure) :
      Decided level r zone hours s target now ⟨before.map (·.1) ++ asked, fail failure⟩
  | forecast {e : ZoneEntry} {shares : List ModelShare} (loaded : r.load zone = .ok e)
      (inside : ∀ held ∈ e.models, held.2.metadata.horizon.contains hours = true)
      (present : s.snapshot.zone? zone ≠ none)
      (made : List.Forall₂ (fun held share => ModelShare.Made zone s.snapshot hours target held.1 held.2 share) e.models
        shares)
      (weights : (shares.map fun share => (share.variant, share.weight)) = e.manifest.weights.effective e.variants) :
      Decided level r zone hours s target now
        ⟨e.variants, .ok
          { zone := zone
            horizon := hours
            point := total (shares.map fun share => share.weight * share.estimate)
            lower := total (shares.map fun share => share.weight * share.estimate) -
              quantile level * total (shares.map fun share => share.weight * share.residualStd)
            upper := total (shares.map fun share => share.weight * share.estimate) +
              quantile level * total (shares.map fun share => share.weight * share.residualStd)
            level := level
            token := s.token
            generatedAt := now
            source := .models e.manifest.weights.version r.generation shares }⟩

section

variable {level : Float} {r : Registry} {zone : String} {hours : Nat} {s : NamedSnapshot} {target now : Timestamp}
  {e : ZoneEntry} {a : Asked Prediction}

theorem forecast_inside (words : e.Words) (loaded : r.load zone = .ok e)
    (inside : ∀ held ∈ e.models, held.2.metadata.horizon.contains hours = true)
    (present : s.snapshot.zone? zone ≠ none) :
    zoneForecast level r zone hours s now =
      (modelShares zone s.snapshot hours e (e.manifest.weights.effective e.variants)).map
        (predictionOfShares level r.generation zone hours s.token e.manifest.weights.version now) := by
  have within := (horizons_inside words (load_models loaded)).mpr inside
  have there : (s.snapshot.zone? zone).isNone = false := by
    rwa [Option.isNone_eq_false_iff, Option.isSome_iff_ne_none]
  simp only [zoneForecast, loaded, if_neg within, there, Bool.false_eq_true, if_false]

theorem forecast_follows (words : ∀ e, r.load zone = .ok e → e.Words)
    (reached : s.snapshot.observedAt.addHours? hours = some target)
    (decided : Decided level r zone hours s target now a) : zoneForecast level r zone hours s now = a := by
  cases decided with
  | unavailable unavailable => simp only [zoneForecast, unavailable]
  | outside loaded outside latest earliest =>
      obtain ⟨least, greatest⟩ := horizons_common (words _ loaded) (load_models loaded)
      cases least.symm.trans latest
      cases greatest.symm.trans earliest
      have beyond := not_not.mp (mt (horizons_inside (words _ loaded) (load_models loaded)).mp (by simpa using outside))
      simp only [zoneForecast, loaded, if_pos beyond]
  | featureless loaded inside featureless =>
      have within := (horizons_inside (words _ loaded) (load_models loaded)).mpr inside
      simp only [zoneForecast, loaded, if_neg within, featureless, Option.isNone_none, if_true]
  | @withheld e before after v m asked failure loaded inside present split made withheld =>
      rw [forecast_inside (words e loaded) loaded inside present]
      rw [model_shares_withheld reached (split ▸ models_held) ?_ made withheld]
      · rfl
      · rw [effective_names, ZoneEntry.variants, split]
  | @forecast e shares loaded inside present made weights =>
      rw [forecast_inside (words e loaded) loaded inside present, ← weights, model_shares_made reached models_held made]
      simp only [Asked.map, Except.map, predictionOfShares, weightedTotal, ensembleStd, bounds, List.map_map]
      rfl

-- There is always a check that decides.
theorem forecast_ends (level : Float) (now : Timestamp) (words : ∀ e, r.load zone = .ok e → e.Words)
    (reached : s.snapshot.observedAt.addHours? hours = some target) :
    ∃ a, Decided level r zone hours s target now a := by
  cases loaded : r.load zone with
  | error failure => exact ⟨_, .unavailable loaded⟩
  | ok e =>
      by_cases inside : ∀ held ∈ e.models, held.2.metadata.horizon.contains hours = true
      · by_cases present : s.snapshot.zone? zone = none
        · exact ⟨_, .featureless loaded inside present⟩
        · rcases made_or_first reached (effective_names e.manifest.weights e.variants) with
            ⟨shares, made, weights⟩ | ⟨before, v, m, after, asked, failure, split, made, withheld⟩
          · exact ⟨_, .forecast loaded inside present made weights⟩
          · exact ⟨_, .withheld loaded inside present split made withheld⟩
      · obtain ⟨least, greatest⟩ := horizons_common (words e loaded) (load_models loaded)
        exact ⟨_, .outside loaded (by simpa using inside) least greatest⟩

theorem zone_forecast_decided (words : ∀ e, r.load zone = .ok e → e.Words)
    (reached : s.snapshot.observedAt.addHours? hours = some target) :
    zoneForecast level r zone hours s now = a ↔ Decided level r zone hours s target now a := by
  refine ⟨?_, forecast_follows words reached⟩
  rintro rfl
  obtain ⟨a, decided⟩ := forecast_ends level now words reached
  rwa [forecast_follows words reached decided]

end

section Alike

variable (zone : String) (s : Snapshot) (hours : Nat) (target : Timestamp)

-- Holdings that differ in no more than what a model would make of other inputs than those of its schema.
inductive Holding.Alike : Holding → Holding → Prop
  | absent : Alike .absent .absent
  | rejected (reason : String) : Alike (.rejected reason) (.rejected reason)
  | loaded {m m' : Model} (metadata : m'.metadata = m.metadata)
      (estimates : ∀ inputs, Inputs zone s hours target m.metadata.features inputs →
        m'.estimate inputs = m.estimate inputs) : Alike (.loaded m) (.loaded m')

structure ZoneEntry.Alike (e e' : ZoneEntry) : Prop where
  manifest : e'.manifest = e.manifest
  holdings : ∀ v, (e.holding v).Alike zone s hours target (e'.holding v)

variable {zone s hours target} {e e' : ZoneEntry} (alike : e.Alike zone s hours target e')

include alike

theorem alike_metadata : (e'.models.map fun held => (held.1, held.2.metadata)) =
    e.models.map fun held => (held.1, held.2.metadata) := by
  simp only [ZoneEntry.models, List.map_filterMap]
  refine List.filterMap_congr fun v _ => ?_
  have here := alike.holdings v
  simp only [ZoneEntry.model?]
  generalize e.holding v = held, e'.holding v = held' at here ⊢
  cases here with
  | absent => rfl
  | rejected reason => rfl
  | loaded metadata => simp [Holding.model?, metadata]

theorem alike_variants : e'.variants = e.variants := by
  have names := congrArg (List.map Prod.fst) (alike_metadata alike)
  rwa [List.map_map, List.map_map] at names

theorem alike_horizons : e'.horizons = e.horizons := by
  have through : ∀ e : ZoneEntry, e.horizons =
      (e.models.map fun held => (held.1, held.2.metadata)).foldl
        (fun r m => (⟨max r.least m.2.horizon.least, min r.greatest m.2.horizon.greatest⟩ : HorizonRange))
        ⟨0, wordLimit 32 - 1⟩ := fun e => by rw [List.foldl_map]; rfl
  rw [through, through, alike_metadata alike]

theorem alike_issues : e'.issues = e.issues := by
  refine List.filterMap_congr fun v _ => ?_
  have here := alike.holdings v
  generalize e.holding v = held, e'.holding v = held' at here ⊢
  cases here <;> rfl

theorem alike_shares (reached : s.observedAt.addHours? hours = some target) (weights : List (Variant × Float)) :
    modelShares zone s hours e' weights = modelShares zone s hours e weights := by
  induction weights with
  | nil => rfl
  | cons first rest ih =>
      obtain ⟨v, weight⟩ := first
      have here := alike.holdings v
      simp only [modelShares, ZoneEntry.model?, ih]
      generalize e.holding v = held, e'.holding v = held' at here ⊢
      cases here with
      | absent => rfl
      | rejected reason => rfl
      | @loaded m m' metadata estimates =>
          have same : modelShare zone s hours v weight m' = modelShare zone s hours v weight m := by
            unfold modelShare
            rw [metadata]
            cases built : modelInputs zone m.metadata.features s hours with
            | error halt => rfl
            | ok inputs => simp only [estimates inputs ((model_inputs_pass reached).mp built)]
          simp only [Holding.model?, same]

theorem alike_available : e'.isAvailable = e.isAvailable := by
  have none := congrArg List.isEmpty (alike_metadata alike)
  rw [List.isEmpty_map, List.isEmpty_map] at none
  rw [ZoneEntry.isAvailable, ZoneEntry.isAvailable, none]

end Alike

section

variable {level : Float} {r r' : Registry} {zone : String} {hours : Nat} {s : NamedSnapshot} {target now : Timestamp}
  {a : Asked Prediction}

theorem forecast_alike (reached : s.snapshot.observedAt.addHours? hours = some target)
    (generation : r'.generation = r.generation)
    (entries : Option.Rel (ZoneEntry.Alike zone s.snapshot hours target) (r.find? zone) (r'.find? zone)) :
    zoneForecast level r' zone hours s now = zoneForecast level r zone hours s now := by
  unfold zoneForecast Registry.load
  generalize r.find? zone = entry, r'.find? zone = entry' at entries ⊢
  cases entries with
  | none => rfl
  | @some e e' alike =>
      simp only [alike_available alike, ZoneEntry.unavailable, alike_issues alike]
      cases e.isAvailable with
      | false => rfl
      | true =>
          simp only [if_true, alike_horizons alike, alike_variants alike, alike.manifest, alike_shares alike reached,
            generation]

theorem made_each {models : List (Variant × Model)} {shares : List ModelShare}
    (made : List.Forall₂ (fun held share => ModelShare.Made zone s.snapshot hours target held.1 held.2 share) models
      shares) : ∀ held ∈ models, ∃ share : ModelShare, share.Made zone s.snapshot hours target held.1 held.2 := by
  induction made with
  | nil => nofun
  | cons here _ ih => exact List.forall_mem_cons.mpr ⟨⟨_, here⟩, ih⟩

theorem made_inputs {held : Variant × Model} {share : ModelShare}
    (made : share.Made zone s.snapshot hours target held.1 held.2) :
    ∃ inputs, Inputs zone s.snapshot hours target held.2.metadata.features inputs :=
  made.estimate.imp fun _ => And.left

theorem withheld_inputs {v w : Variant} {m : Model} {asked : List Variant} {failure : Failure}
    (withheld : Withheld zone s.snapshot hours target v m asked failure) (member : w ∈ asked) :
    w = v ∧ ∃ inputs, Inputs zone s.snapshot hours target m.metadata.features inputs := by
  cases withheld with
  | feature => cases member
  | silent given => exact ⟨List.mem_singleton.mp member, _, given⟩
  | notFinite given => exact ⟨List.mem_singleton.mp member, _, given⟩

-- A model that was asked is loaded, and its inputs had passed.
theorem asked_with_inputs (decided : Decided level r zone hours s target now a) : ∀ v ∈ a.variants,
    ∃ e m inputs, r.load zone = .ok e ∧ e.model? v = some m ∧
      Inputs zone s.snapshot hours target m.metadata.features inputs := by
  intro w member
  cases decided with
  | unavailable => cases member
  | outside => cases member
  | featureless => cases member
  | @withheld e before after v m asked failure loaded _ _ split made withheld =>
      have held : ∀ held ∈ before ++ (v, m) :: after, e.model? held.1 = some held.2 := split ▸ models_held
      rcases List.mem_append.mp member with earlier | last
      · obtain ⟨b, listed, rfl⟩ := List.mem_map.mp earlier
        obtain ⟨share, part⟩ := made b listed
        obtain ⟨inputs, given⟩ := made_inputs part
        exact ⟨e, b.2, inputs, loaded, held b (List.mem_append_left _ listed), given⟩
      · obtain ⟨rfl, inputs, given⟩ := withheld_inputs withheld last
        exact ⟨e, m, inputs, loaded, held (w, m) (by simp), given⟩
  | @forecast e shares loaded _ _ made _ =>
      obtain ⟨held, listed, rfl⟩ := List.mem_map.mp member
      obtain ⟨share, part⟩ := made_each made held listed
      obtain ⟨inputs, given⟩ := made_inputs part
      exact ⟨e, held.2, inputs, loaded, models_held held listed, given⟩

end

namespace Sample

def tuesday : Timestamp := ⟨1720533600, 0⟩

def mild : Feature := { name := "temperature_f", greatest := some 80 }

-- A zone with both models, of which the second takes no more than mild weather.
def paired : Registry :=
  Registry.ofSteps 3
    [.model "SCE" .baseline (model "SCE" .baseline ["horizon_hours"] 18000),
      .model "SCE" .enhanced (.constant { metadata "SCE" .enhanced [] with features := [mild] } 19631)]

def tuesdays : NamedSnapshot := ⟨"tuesday", snapshot tuesday⟩

end Sample

end GridLoad
