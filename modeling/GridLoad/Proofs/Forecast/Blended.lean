import GridLoad.Proofs.Forecast.Decided
import GridLoad.Proofs.Forecast.Undated
import GridLoad.Proofs.Group.Bounds
import GridLoad.Proofs.Model.Valid

/-!
A zone's forecast in exact arithmetic: the steps from the answers of its models to the interval over any kind of number,
which are its own over doubles, and their laws over the reals. The shares of accepted weights add up to one, so that
the forecast is a mean of the answers.
-/

set_option autoImplicit false

namespace GridLoad

open GridLoad.Time (Timestamp)

-- Numbers of a kind that doubles and counts are taken into.
structure Arithmetic (α : Type) where
  number : Float → α
  count : Nat → α
  root : α → α

namespace Arithmetic

def doubles : Arithmetic Float := ⟨id, Float.ofNat, Float.sqrt⟩

noncomputable def reals : Arithmetic ℝ := ⟨fun x => (Decimal.exact x : ℚ), Nat.cast, Real.sqrt⟩

end Arithmetic

-- What one of a zone's models has to say about a horizon, and how far it was off before.
structure Answer where
  variant : Variant
  estimate : Float
  residuals : Residuals

-- The answer of a loaded model that was asked with the inputs of its schema.
structure Answer.Given (zone : String) (s : Snapshot) (hours : Nat) (held : Variant × Model) (a : Answer) : Prop where
  variant : a.variant = held.1
  estimate : ∃ inputs, modelInputs zone held.2.metadata.features s hours = .ok inputs ∧
    held.2.estimate inputs = .ok a.estimate
  finite : a.estimate.isFinite = true
  residuals : a.residuals = held.2.metadata.residuals

def Weights.map {α β : Type} (f : α → β) (w : Weights α) : Weights β := ⟨w.version, f w.baseline, f w.enhanced⟩

section

variable {α : Type} [Add α] [Mul α] [Div α] [Neg α] [OfNat α 0] [OfNat α 1] [LE α] [DecidableLE α]

def Residuals.stdBy (n : Arithmetic α) (r : Residuals) (hours : Nat) : α :=
  match r.measured.get? hours with
  | some std => n.number std
  | none => n.number r.std * n.root (n.count (max hours 1) / n.count r.referenceHours)

-- What is read off each answer, beside the effective weight of its variant.
def weighed (w : Weights α) (answers : List Answer) (value : Answer → α) : List (α × α) :=
  ((w.effective (answers.map (·.variant))).map (·.2)).zip (answers.map value)

def pointBy (n : Arithmetic α) (w : Weights) (answers : List Answer) : α :=
  weightedTotal (weighed (w.map n.number) answers fun a => n.number a.estimate)

def deviationBy (n : Arithmetic α) (w : Weights) (hours : Nat) (answers : List Answer) : α :=
  ensembleStd (weighed (w.map n.number) answers fun a => a.residuals.stdBy n hours)

def Estimate.ofAnswers [Sub α] (n : Arithmetic α) (w : Weights) (level : Float) (hours : Nat)
    (answers : List Answer) : Estimate α :=
  let interval := bounds (pointBy n w answers) (deviationBy n w hours answers) (n.number (quantile level))
  ⟨interval.1, pointBy n w answers, interval.2⟩

end

section Answers

variable {level : Float} {r : Registry} {zone : String} {hours : Nat} {s : Snapshot} {e : ZoneEntry} {v : Variant}
  {m : Model} {weight : Float} {share : ModelShare}

theorem share_answered (made : (modelShare zone s hours v weight m).outcome = .ok share) :
    ∃ a, Answer.Given zone s hours (v, m) a ∧
      share = ⟨v, m.metadata.modelVersion, weight, a.estimate, a.residuals.stdAt hours⟩ := by
  unfold modelShare at made
  cases built : modelInputs zone m.metadata.features s hours with
  | error halt =>
      rw [built] at made
      cases made
  | ok inputs =>
      rw [built] at made
      cases estimated : m.estimate inputs with
      | error reason =>
          simp only [estimated] at made
          cases made
      | ok estimate =>
          simp only [estimated] at made
          cases finite : estimate.isFinite with
          | false =>
              simp only [finite, Bool.not_false, if_true] at made
              cases made
          | true =>
              simp only [finite, Bool.not_true, Bool.false_eq_true, if_false] at made
              cases made
              exact ⟨⟨v, estimate, m.metadata.residuals⟩, ⟨rfl, ⟨inputs, built, estimated⟩, finite, rfl⟩, rfl⟩

-- The shares hold an answer of each model beside its weight.
theorem shares_answered {models : List (Variant × Model)} {weights : List (Variant × Float)} {shares : List ModelShare}
    (loaded : ∀ held ∈ models, e.model? held.1 = some held.2) (named : weights.map (·.1) = models.map (·.1))
    (made : (modelShares zone s hours e weights).outcome = .ok shares) :
    ∃ answers, List.Forall₂ (Answer.Given zone s hours) models answers ∧
      (shares.map fun share => (share.weight, share.estimate)) =
        (weights.map (·.2)).zip (answers.map (·.estimate)) ∧
      (shares.map fun share => (share.weight, share.residualStd)) =
        (weights.map (·.2)).zip (answers.map (·.residuals.stdAt hours)) := by
  induction models generalizing weights shares with
  | nil =>
      obtain rfl := List.map_eq_nil_iff.mp named
      cases made
      exact ⟨[], .nil, rfl, rfl⟩
  | cons held models ih =>
      obtain ⟨⟨w, weight⟩, rest, rfl, rfl, others⟩ := List.map_eq_cons_iff.mp named
      obtain ⟨here, later⟩ := List.forall_mem_cons.mp loaded
      simp only [modelShares, here] at made
      cases first : (modelShare zone s hours held.1 weight held.2).outcome with
      | error halt =>
          rw [first] at made
          cases made
      | ok share =>
          rw [first] at made
          cases tail : (modelShares zone s hours e rest).outcome with
          | error halt =>
              simp only [tail] at made
              cases made
          | ok parts =>
              simp only [tail] at made
              cases made
              obtain ⟨a, given, rfl⟩ := share_answered first
              obtain ⟨answers, all, estimates, deviations⟩ := ih later others tail
              refine ⟨a :: answers, .cons given all, ?_, ?_⟩
              · simp only [List.map_cons, List.zip_cons_cons, estimates]
              · simp only [List.map_cons, List.zip_cons_cons, deviations]

theorem answered_variants {models : List (Variant × Model)} {answers : List Answer}
    (given : List.Forall₂ (Answer.Given zone s hours) models answers) :
    answers.map (·.variant) = models.map (·.1) := by
  induction given with
  | nil => rfl
  | cons first _ ih => rw [List.map_cons, List.map_cons, first.variant, ih]

theorem answered_residuals {models : List (Variant × Model)} {answers : List Answer}
    (given : List.Forall₂ (Answer.Given zone s hours) models answers)
    (valid : ∀ held ∈ models, held.2.metadata.residuals.Valid) : ∀ a ∈ answers, a.residuals.Valid := by
  induction given with
  | nil => exact nofun
  | cons first _ ih =>
      obtain ⟨here, later⟩ := List.forall_mem_cons.mp valid
      exact List.forall_mem_cons.mpr ⟨first.residuals ▸ here, ih later⟩

end Answers

-- The numbers of a forecast are computed from the answers of all loaded models.
theorem forecast_of_answers {level : Float} {r : Registry} {zone : String} {hours : Nat} {s : NamedSnapshot}
    {now : Timestamp} {p : Prediction} (computed : (zoneForecast level r zone hours s now).outcome = .ok p) :
    ∃ e answers, r.load zone = .ok e ∧ List.Forall₂ (Answer.Given zone s.snapshot hours) e.models answers ∧
      p.estimate = .ofAnswers .doubles e.manifest.weights level hours answers := by
  obtain ⟨e, shares, loaded, made, rfl⟩ := zone_forecast_computed computed
  obtain ⟨answers, given, estimates, deviations⟩ :=
    shares_answered models_held (effective_names e.manifest.weights e.variants) made
  refine ⟨e, answers, loaded, given, ?_⟩
  simp only [Prediction.estimate, predictionOfShares, estimates, deviations, ZoneEntry.variants,
    ← answered_variants given]
  rfl

noncomputable def Weights.exact (w : Weights) : Weights ℝ := w.map Arithmetic.reals.number

-- The number lies between the smallest and the largest of the list.
def Spans (xs : List ℝ) (x : ℝ) : Prop :=
  ∃ least greatest, xs.min? = some least ∧ xs.max? = some greatest ∧ least ≤ x ∧ x ≤ greatest

section Shares

variable {w : Weights ℝ} {available : List Variant} {share : Variant × ℝ}

theorem weight_accepted {name : String} {x : Float} {last : Unit} :
    Weights.validWeight name x = .ok last ↔ x.isFinite = true ∧ 0 ≤ Decimal.exact x := by
  rw [← Decimal.finite_nonneg, Weights.validWeight]
  split
  · rename_i wrong
    exact ⟨nofun, fun fine => absurd wrong fine⟩
  · rename_i fine
    exact ⟨fun _ => fine, fun _ => rfl⟩

theorem accepted_weights {w : Weights} (accepted : w.validate = .ok ()) (v : Variant) : 0 ≤ w.exact.declared v := by
  simp only [Weights.validate, guard_passes, bind_passes, weight_accepted] at accepted
  obtain ⟨_, _, ⟨_, baseline⟩, _, ⟨_, enhanced⟩, _⟩ := accepted
  cases v with
  | baseline => exact Rat.cast_nonneg.mpr baseline
  | enhanced => exact Rat.cast_nonneg.mpr enhanced

theorem effective_declared (positive : 0 < (available.map w.declared).sum) :
    w.effective available = available.map fun v => (v, w.declared v / (available.map w.declared).sum) := by
  simp only [Weights.effective, total_sum, if_neg (not_le.mpr positive)]

theorem effective_even (nothing : ¬ 0 < (available.map w.declared).sum) :
    w.effective available = available.map fun v => (v, 1 / (available.length : ℝ)) := by
  simp only [Weights.effective, total_sum, if_pos (not_lt.mp nothing), List.map_const', List.sum_replicate, nsmul_one]

theorem share_nonneg (nonneg : ∀ v, 0 ≤ w.declared v) (member : share ∈ w.effective available) : 0 ≤ share.2 := by
  by_cases positive : 0 < (available.map w.declared).sum
  · rw [effective_declared positive] at member
    obtain ⟨v, _, rfl⟩ := List.mem_map.mp member
    exact div_nonneg (nonneg v) positive.le
  · rw [effective_even positive] at member
    obtain ⟨v, _, rfl⟩ := List.mem_map.mp member
    exact one_div_nonneg.mpr (Nat.cast_nonneg _)

theorem shares_whole (some_variant : available ≠ []) : ((w.effective available).map (·.2)).sum = 1 := by
  by_cases positive : 0 < (available.map w.declared).sum
  · rw [effective_declared positive, List.map_map]
    simp only [Function.comp_def, div_eq_mul_inv]
    rw [List.sum_map_mul_right]
    exact mul_inv_cancel₀ positive.ne'
  · have count : (available.length : ℝ) ≠ 0 := Nat.cast_ne_zero.mpr (List.length_pos_iff.mpr some_variant).ne'
    rw [effective_even positive, List.map_map]
    simp only [Function.comp_def, List.map_const', List.sum_replicate, nsmul_eq_mul]
    exact mul_one_div_cancel count

end Shares

section Means

variable {parts : List (ℝ × ℝ)} {x : ℝ} {w : Weights ℝ} {answers : List Answer}

theorem le_mean (nonneg : ∀ p ∈ parts, 0 ≤ p.1) (whole : (parts.map (·.1)).sum = 1) (least : ∀ p ∈ parts, x ≤ p.2) :
    x ≤ weightedTotal parts := by
  calc
    x = (parts.map (·.1)).sum * x := by rw [whole, one_mul]
    _ = (parts.map fun p => p.1 * x).sum := (List.sum_map_mul_right ..).symm
    _ ≤ (parts.map fun p => p.1 * p.2).sum :=
      List.sum_le_sum fun p member => mul_le_mul_of_nonneg_left (least p member) (nonneg p member)
    _ = weightedTotal parts := (total_sum _).symm

theorem mean_le (nonneg : ∀ p ∈ parts, 0 ≤ p.1) (whole : (parts.map (·.1)).sum = 1) (most : ∀ p ∈ parts, p.2 ≤ x) :
    weightedTotal parts ≤ x := by
  calc
    weightedTotal parts = (parts.map fun p => p.1 * p.2).sum := total_sum _
    _ ≤ (parts.map fun p => p.1 * x).sum :=
      List.sum_le_sum fun p member => mul_le_mul_of_nonneg_left (most p member) (nonneg p member)
    _ = (parts.map (·.1)).sum * x := List.sum_map_mul_right ..
    _ = x := by rw [whole, one_mul]

theorem spans_nonneg {xs : List ℝ} (spans : Spans xs x) (nonneg : ∀ y ∈ xs, 0 ≤ y) : 0 ≤ x := by
  obtain ⟨least, _, smallest, _, above, _⟩ := spans
  exact (nonneg least (List.min?_mem smallest)).trans above

-- The weights of all that is weighed are the shares of the variants.
theorem weighed_mean (nonneg : ∀ v, 0 ≤ w.declared v) (some_answer : answers ≠ []) (value : Answer → ℝ) :
    Spans (answers.map value) (weightedTotal (weighed w answers value)) := by
  have variants : answers.map (·.variant) ≠ [] := mt List.map_eq_nil_iff.mp some_answer
  have values : answers.map value ≠ [] := mt List.map_eq_nil_iff.mp some_answer
  obtain ⟨least, smallest⟩ := Option.ne_none_iff_exists'.mp (mt List.min?_eq_none_iff.mp values)
  obtain ⟨greatest, largest⟩ := Option.ne_none_iff_exists'.mp (mt List.max?_eq_none_iff.mp values)
  have whole : ((weighed w answers value).map (·.1)).sum = 1 := by
    have counts := congrArg List.length (effective_names w (answers.map (·.variant)))
    simp only [List.length_map] at counts
    rw [weighed, List.map_fst_zip (by simp only [List.length_map, counts, le_refl])]
    exact shares_whole variants
  have member : ∀ p ∈ weighed w answers value, 0 ≤ p.1 ∧ p.2 ∈ answers.map value := by
    intro p member
    obtain ⟨weight, there⟩ := List.of_mem_zip member
    obtain ⟨share, listed, same⟩ := List.mem_map.mp weight
    exact ⟨same ▸ share_nonneg nonneg listed, there⟩
  refine ⟨least, greatest, smallest, largest, ?_, ?_⟩
  · exact le_mean (fun p there => (member p there).1) whole
      fun p there => (List.le_min?_iff smallest).mp (le_refl _) _ (member p there).2
  · exact mean_le (fun p there => (member p there).1) whole
      fun p there => (List.max?_le_iff largest).mp (le_refl _) _ (member p there).2

end Means

section Intervals

variable {level : Float} {hours : Nat} {w : Weights} {answers : List Answer} {r : Residuals}

theorem quantile_positive (level : Float) : 0 < Decimal.exact (quantile level) := by
  have positive : (quantile level).isFinite = true ∧ 0 < quantile level := by
    unfold quantile
    repeat' split
    all_goals exact ⟨by rfl, by decide⟩
  exact (Decimal.lt_iff_exact (by rfl) positive.1).mp positive.2

theorem std_accepted {x : Float} (valid : validStd x = true) : 0 ≤ Arithmetic.reals.number x := by
  simp only [validStd, Bool.and_eq_true, decide_eq_true_eq] at valid
  exact Rat.cast_nonneg.mpr ((Decimal.le_iff_exact (by rfl) valid.1).mp valid.2)

theorem std_nonneg (valid : r.Valid) (hours : Nat) : 0 ≤ r.stdBy .reals hours := by
  unfold Residuals.stdBy
  cases measured : r.measured.get? hours with
  | some std => exact std_accepted (valid.measured hours std measured)
  | none => exact mul_nonneg (std_accepted valid.std) (Real.sqrt_nonneg _)

theorem estimate_ordered (nonneg : 0 ≤ deviationBy .reals w hours answers) :
    (Estimate.ofAnswers .reals w level hours answers).Ordered := by
  have half : 0 ≤ Arithmetic.reals.number (quantile level) * deviationBy .reals w hours answers :=
    mul_nonneg (Rat.cast_nonneg.mpr (quantile_positive level).le) nonneg
  exact ⟨sub_le_self _ half, le_add_of_nonneg_right half⟩

end Intervals

/--
The effective weights of the loaded variants, computed exactly from accepted weights, come in the order of the variants,
are not negative and add up to one. They are the declared weights over their sum where that is positive, and equal
otherwise. The numbers of a zone's forecast come from the answers of its loaded models by steps that any kind of number
can go through. Over the reals and with accepted weights, the point lies between the smallest and the largest estimate,
the deviation between the smallest and the largest of the models', and, where the models' metadata were accepted, the
point between the bounds.
-/
theorem forecast_blended :
    (∀ (w : Weights) (available : List Variant), w.validate = .ok () → available ≠ [] →
      (w.exact.effective available).map (·.1) = available ∧
      (∀ share ∈ w.exact.effective available, 0 ≤ share.2) ∧
      ((w.exact.effective available).map (·.2)).sum = 1 ∧
      (0 < (available.map w.exact.declared).sum →
        w.exact.effective available =
          available.map fun v => (v, w.exact.declared v / (available.map w.exact.declared).sum)) ∧
      (¬ 0 < (available.map w.exact.declared).sum →
        w.exact.effective available = available.map fun v => (v, 1 / (available.length : ℝ)))) ∧
    ∀ (level : Float) (r : Registry) (zone : String) (hours : Nat) (s : NamedSnapshot) (now : Timestamp)
      (p : Prediction), (zoneForecast level r zone hours s now).outcome = .ok p →
      ∃ e answers, r.load zone = .ok e ∧ List.Forall₂ (Answer.Given zone s.snapshot hours) e.models answers ∧
        p.estimate = .ofAnswers .doubles e.manifest.weights level hours answers ∧
        (e.manifest.weights.validate = .ok () →
          Spans (answers.map fun a => Arithmetic.reals.number a.estimate)
            (Estimate.ofAnswers .reals e.manifest.weights level hours answers).point ∧
          Spans (answers.map fun a => a.residuals.stdBy .reals hours)
            (deviationBy .reals e.manifest.weights hours answers) ∧
          ((∀ held ∈ e.models, held.2.metadata.validate zone held.1 = .ok ()) →
            (Estimate.ofAnswers .reals e.manifest.weights level hours answers).Ordered)) := by
  refine ⟨?_, ?_⟩
  · intro w available accepted some_variant
    exact ⟨effective_names _ _, fun share => share_nonneg (accepted_weights accepted), shares_whole some_variant,
      effective_declared, effective_even⟩
  · intro level r zone hours s now p computed
    obtain ⟨e, answers, loaded, given, estimate⟩ := forecast_of_answers computed
    have some_answer : answers ≠ [] := fun none => by
      subst none
      exact load_models loaded (List.forall₂_nil_right_iff.mp given)
    refine ⟨e, answers, loaded, given, estimate, fun accepted => ?_⟩
    have nonneg := accepted_weights accepted
    have deviation := weighed_mean nonneg some_answer fun a => a.residuals.stdBy .reals hours
    refine ⟨weighed_mean nonneg some_answer _, deviation, fun valid => estimate_ordered ?_⟩
    have residuals := answered_residuals given fun held member => (metadata_passes.mp (valid held member)).residuals
    exact spans_nonneg deviation (List.forall_mem_map.mpr fun a member => std_nonneg (residuals a member) hours)

namespace Sample

-- All weight was declared for a model that is not there.
def halfLoaded : ZoneEntry where
  manifest := { weights := ⟨"v2", 0, 1⟩ }
  baseline := .loaded (model "SCE" .baseline ["horizon_hours"] 18000)

def oneSided : Registry :=
  Registry.ofSteps 3
    [.manifest "SCE" halfLoaded.manifest, .model "SCE" .baseline (model "SCE" .baseline ["horizon_hours"] 18000)]

theorem half_loaded_blended : ∃ p answers, (zoneForecast 0.95 oneSided "SCE" 24 tuesdays tuesday).outcome = .ok p ∧
    p.estimate = .ofAnswers .doubles halfLoaded.manifest.weights 0.95 24 answers ∧
    halfLoaded.manifest.weights.validate = .ok () ∧
    ((halfLoaded.manifest.weights.exact.effective [.baseline]).map (·.2)).sum = 1 ∧
    Spans (answers.map fun a => Arithmetic.reals.number a.estimate)
      (Estimate.ofAnswers .reals halfLoaded.manifest.weights 0.95 24 answers).point ∧
    (Estimate.ofAnswers .reals halfLoaded.manifest.weights 0.95 24 answers).Ordered := by
  have accepted : halfLoaded.manifest.weights.validate = .ok () := by rfl
  have entered : oneSided.load "SCE" = .ok halfLoaded := by rfl
  have valid : ∀ held ∈ halfLoaded.models, held.2.metadata.validate "SCE" held.1 = .ok () := by decide +kernel
  obtain ⟨weights, forecasts⟩ := forecast_blended
  obtain ⟨p, computed⟩ : ∃ p, (zoneForecast 0.95 oneSided "SCE" 24 tuesdays tuesday).outcome = .ok p := ⟨_, rfl⟩
  obtain ⟨e, answers, loaded, _, estimate, blended⟩ := forecasts _ _ _ _ _ _ p computed
  cases entered.symm.trans loaded
  obtain ⟨point, _, ordered⟩ := blended accepted
  exact ⟨p, answers, computed, estimate, accepted, (weights _ _ accepted (by decide)).2.2.1, point, ordered valid⟩

end Sample

end GridLoad
