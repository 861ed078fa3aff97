import GridLoad.Model.Graph
import GridLoad.Model.Linear

/-!
What metadata and models are known for once they are accepted. Whoever computes with them afterwards relies on it
without a check of his own.
-/

set_option autoImplicit false

namespace GridLoad

section Checks

variable {ε α β : Type}

theorem bind_passes {a : Except ε α} {next : α → Except ε β} {y : β} :
    a >>= next = .ok y ↔ ∃ x, a = .ok x ∧ next x = .ok y := by
  cases a with
  | error fault => exact ⟨nofun, nofun⟩
  | ok x => exact ⟨fun passed => ⟨x, rfl, passed⟩, fun ⟨_, same, passed⟩ => Except.ok.inj same ▸ passed⟩

theorem guard_passes {wrong : Prop} [Decidable wrong] {fault : ε} {next : Unit → Except ε β} {y : β} :
    (if wrong then (throw fault : Except ε Unit) >>= next else next ()) = .ok y ↔ ¬ wrong ∧ next () = .ok y := by
  by_cases bad : wrong
  · rw [if_pos bad]
    exact ⟨nofun, fun ⟨fine, _⟩ => absurd bad fine⟩
  · rw [if_neg bad]
    exact ⟨fun passed => ⟨bad, passed⟩, fun ⟨_, passed⟩ => passed⟩

theorem last_guard_passes {wrong : Prop} [Decidable wrong] {fault : ε} :
    (if wrong then throw fault else pure () : Except ε Unit) = .ok () ↔ ¬ wrong := by
  by_cases bad : wrong
  · rw [if_pos bad]
    exact ⟨nofun, fun fine => absurd bad fine⟩
  · rw [if_neg bad]
    exact ⟨fun _ => bad, fun _ => rfl⟩

theorem last_check_passes {right : Prop} [Decidable right] {fault : ε} :
    (if right then pure () else throw fault : Except ε Unit) = .ok () ↔ right := by
  rw [← ite_not, last_guard_passes, Decidable.not_not]

theorem all_pass {check : α → Except ε Unit} {xs : List α} {last : Unit} :
    xs.forM check = .ok last ↔ ∀ x ∈ xs, check x = .ok () := by
  induction xs with
  | nil => exact ⟨nofun, fun _ => rfl⟩
  | cons x rest ih =>
      change check x >>= (fun _ => rest.forM check) = .ok last ↔ _
      rw [bind_passes, List.forall_mem_cons, ih]
      exact ⟨fun ⟨_, first, others⟩ => ⟨first, others⟩, fun ⟨first, others⟩ => ⟨(), first, others⟩⟩

end Checks

-- A feature that can be standardized, with a range that is not empty.
structure Feature.Valid (f : Feature) : Prop where
  std_finite : f.std.isFinite = true
  std_positive : f.std > 0
  mean_finite : f.mean.isFinite = true
  range : ∀ least greatest, f.least = some least → f.greatest = some greatest →
    least.isNaN = false ∧ greatest.isNaN = false ∧ ¬ least > greatest

structure Residuals.Valid (r : Residuals) : Prop where
  std : validStd r.std = true
  measured : ∀ hours std, r.measured.get? hours = some std → validStd std = true
  reference : r.referenceHours ≠ 0

-- Metadata in order, and stored where they belong.
structure Metadata.Valid (m : Metadata) (zone : String) (variant : Variant) : Prop where
  schema : m.schemaVersion = knownSchema
  zone : m.zone = zone
  variant : m.variant = variant
  some_feature : m.features ≠ []
  features : ∀ f ∈ m.features, f.Valid
  horizons : m.horizon.least ≤ m.horizon.greatest
  residuals : m.residuals.Valid

section

variable {m : Metadata} {zone : String} {variant : Variant}

theorem feature_passes {f : Feature} : f.validate = .ok () ↔ f.Valid := by
  obtain ⟨name, mean, std, least?, greatest?⟩ := f
  simp only [Feature.validate, guard_passes, Bool.or_eq_true, Bool.not_eq_true', Bool.and_eq_false_iff,
    decide_eq_false_iff_not, not_or, Bool.not_eq_false, Decidable.not_not]
  constructor
  · rintro ⟨⟨⟨finite, positive⟩, mean⟩, range⟩
    refine ⟨finite, positive, mean, ?_⟩
    rintro least greatest rfl rfl
    simpa [last_guard_passes, and_assoc] using range
  · rintro ⟨finite, positive, mean, range⟩
    refine ⟨⟨⟨finite, positive⟩, mean⟩, ?_⟩
    split
    · rename_i least greatest
      simpa [last_guard_passes, and_assoc] using range least greatest rfl rfl
    · rfl

theorem residuals_pass {r : Residuals} : r.validate = .ok () ↔ r.Valid := by
  simp only [Residuals.validate, guard_passes, bind_passes, last_guard_passes, all_pass, last_check_passes,
    Bool.not_eq_true', Bool.not_eq_false, Prod.forall, ← Table.get_iff_entry]
  constructor
  · rintro ⟨std, _, measured, reference⟩
    exact ⟨std, measured, reference⟩
  · rintro ⟨std, measured, reference⟩
    exact ⟨std, (), measured, reference⟩

theorem metadata_passes : m.validate zone variant = .ok () ↔ m.Valid zone variant := by
  simp only [Metadata.validate, guard_passes, bind_passes, all_pass, feature_passes, residuals_pass, Decidable.not_not, Nat.not_lt,
    List.isEmpty_iff]
  constructor
  · rintro ⟨schema, zone, variant, some_feature, _, features, horizons, residuals⟩
    exact ⟨schema, zone, variant, some_feature, features, horizons, residuals⟩
  · rintro ⟨schema, zone, variant, some_feature, features, horizons, residuals⟩
    exact ⟨schema, zone, variant, some_feature, (), features, horizons, residuals⟩

end

-- A stored linear model that a schema of so many features can be used with.
structure LinearArtifact.Fits (a : LinearArtifact) (count : Nat) : Prop where
  format : a.format = knownFormat
  coefficients : a.coefficients.length = count
  intercept_finite : a.intercept.isFinite = true
  coefficients_finite : ∀ c ∈ a.coefficients, c.isFinite = true

section

variable {metadata : Metadata} {m : Model} {bytes : List UInt8}

theorem linear_passes {a : LinearArtifact} : Linear.ofArtifact a metadata = .ok m ↔
    a.Fits metadata.features.length ∧ m = ⟨metadata, Linear.estimate a.intercept a.coefficients⟩ := by
  unfold Linear.ofArtifact Linear.model
  by_cases format : a.format = LinearArtifact.knownFormat
  · rw [if_neg (not_not_intro format)]
    by_cases count : a.coefficients.length = metadata.features.length
    · rw [if_neg (not_not_intro count)]
      by_cases wild : (!a.intercept.isFinite || a.coefficients.any (!·.isFinite)) = true
      · rw [if_pos wild]
        refine ⟨nofun, fun ⟨fits, _⟩ => ?_⟩
        simp [fits.intercept_finite] at wild
        obtain ⟨c, member, infinite⟩ := wild
        cases infinite.symm.trans (fits.coefficients_finite c member)
      · rw [if_neg wild]
        have finite : a.intercept.isFinite = true ∧ ∀ c ∈ a.coefficients, c.isFinite = true := by simpa using wild
        refine ⟨fun same => ⟨⟨format, count, finite.1, finite.2⟩, (Except.ok.inj same).symm⟩, ?_⟩
        rintro ⟨_, rfl⟩
        rfl
    · rw [if_pos count]
      exact ⟨nofun, fun ⟨fits, _⟩ => absurd fits.coefficients count⟩
  · rw [if_pos format]
    exact ⟨nofun, fun ⟨fits, _⟩ => absurd fits.format format⟩

theorem linear_bytes_pass : Linear.ofBytes bytes metadata = .ok m ↔
    ∃ a, (Json.ofBytes? bytes).bind LinearArtifact.ofJson? = some a ∧ a.Fits metadata.features.length ∧
      m = ⟨metadata, Linear.estimate a.intercept a.coefficients⟩ := by
  unfold Linear.ofBytes
  cases (Json.ofBytes? bytes).bind LinearArtifact.ofJson? with
  | none => exact ⟨nofun, nofun⟩
  | some a => exact linear_passes.trans ⟨fun fits => ⟨a, rfl, fits⟩, fun ⟨_, same, fits⟩ => Option.some.inj same ▸ fits⟩

theorem graph_metadata (read : Graph.model bytes metadata = .ok m) : m.metadata = metadata := by
  simp only [Graph.model] at read
  split at read
  · cases read
    rfl
  · cases read

theorem estimate_given {intercept : Float} {coefficients inputs : List Float}
    (count : inputs.length = coefficients.length) : ∃ x, Linear.estimate intercept coefficients inputs = .ok x := by
  unfold Linear.estimate
  exact ⟨_, if_pos count⟩

end

end GridLoad
