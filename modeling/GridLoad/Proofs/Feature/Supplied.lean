import Mathlib.Data.List.Forall2
import GridLoad.Feature.Inputs
import GridLoad.Proofs.Model.Valid

/-!
What a model is given to compute with. A feature has one value: derived from the target time, or forecast for the
horizon, or else current. The value is checked as it was measured and standardized afterwards, and the first feature of
a schema that has no value, or none that passes, is the one that is named.
-/

set_option autoImplicit false

namespace GridLoad

open GridLoad.Time (Timestamp)

section Traversals

variable {ε α β : Type} {f : α → Except ε β}

theorem mapM_passes {xs : List α} {ys : List β} :
    xs.mapM f = .ok ys ↔ List.Forall₂ (fun x y => f x = .ok y) xs ys := by
  induction xs generalizing ys with
  | nil =>
      rw [List.forall₂_nil_left_iff]
      exact ⟨fun done => (Except.ok.inj done).symm, fun none => none ▸ rfl⟩
  | cons x rest ih =>
      rw [List.mapM_cons, bind_passes, List.forall₂_cons_left_iff]
      constructor
      · rintro ⟨y, first, later⟩
        obtain ⟨tail, others, done⟩ := bind_passes.mp later
        exact ⟨y, tail, first, ih.mp others, (Except.ok.inj done).symm⟩
      · rintro ⟨y, tail, first, others, rfl⟩
        exact ⟨y, first, bind_passes.mpr ⟨tail, ih.mpr others, rfl⟩⟩

-- The elements are gone through up to the first that gives nothing.
theorem mapM_stops {xs : List α} {fault : ε} :
    xs.mapM f = .error fault ↔
      ∃ before x after, xs = before ++ x :: after ∧ (∀ b ∈ before, ∃ y, f b = .ok y) ∧ f x = .error fault := by
  induction xs with
  | nil => exact ⟨nofun, fun ⟨before, x, after, split, _⟩ => by cases before <;> cases split⟩
  | cons x rest ih =>
      rw [List.mapM_cons]
      cases first : f x with
      | error early =>
          constructor
          · intro stopped
            cases stopped
            exact ⟨[], x, rest, rfl, nofun, first⟩
          · rintro ⟨before, y, after, split, passed, stopped⟩
            obtain _ | ⟨b, before⟩ := before
            · cases split
              cases first.symm.trans stopped
              rfl
            · cases split
              obtain ⟨_, passed⟩ := passed x List.mem_cons_self
              cases first.symm.trans passed
      | ok y =>
          have tail : (do
              let y ← Except.ok y
              let ys ← rest.mapM f
              pure (y :: ys) : Except ε (List β)) = .error fault ↔ rest.mapM f = .error fault := by
            cases rest.mapM f <;> simp [bind, Except.bind, pure, Except.pure]
          rw [tail, ih]
          constructor
          · rintro ⟨before, z, after, rfl, passed, stopped⟩
            exact ⟨x :: before, z, after, rfl, List.forall_mem_cons.mpr ⟨⟨y, first⟩, passed⟩, stopped⟩
          · rintro ⟨before, z, after, split, passed, stopped⟩
            obtain _ | ⟨b, before⟩ := before
            · cases split
              cases first.symm.trans stopped
            · cases split
              exact ⟨before, z, after, rfl, (List.forall_mem_cons.mp passed).2, stopped⟩

theorem renamed_passes {ε' : Type} {rename : ε → ε'} {a : Except ε α} {x : α} :
    a.mapError rename = .ok x ↔ a = .ok x := by
  cases a <;> simp [Except.mapError]

theorem renamed_refused {ε' : Type} {rename : ε → ε'} {a : Except ε α} {fault : ε'} :
    a.mapError rename = .error fault ↔ ∃ cause, a = .error cause ∧ fault = rename cause := by
  cases a <;> simp [Except.mapError, eq_comm]

end Traversals

def derivedNames : List String := ["horizon_hours", "target_hour_of_day", "target_day_of_week"]

-- Values that features of a name have for a zone, some hours ahead of a snapshot, where the target time is reached.
inductive Snapshot.Gives (s : Snapshot) (zone : String) (hours : Nat) (target : Timestamp) (name : String) :
    Float → Prop
  | horizon (named : name = "horizon_hours") : Gives s zone hours target name (Float.ofNat hours)
  | hourOfDay (named : name = "target_hour_of_day") : Gives s zone hours target name (Float.ofNat target.hourOfDay)
  | weekday (named : name = "target_day_of_week") : Gives s zone hours target name (Float.ofNat target.weekday)
  | forecast {features : ZoneFeatures} {values : Values} {x : Float} (measured : name ∉ derivedNames)
      (there : s.zone? zone = some features) (ahead : features.forecast.get? hours = some values)
      (value : values.get? name = some x) : Gives s zone hours target name x
  | current {features : ZoneFeatures} {x : Float} (measured : name ∉ derivedNames)
      (there : s.zone? zone = some features)
      (unforeseen : ∀ values, features.forecast.get? hours = some values → values.get? name = none)
      (value : features.current.get? name = some x) : Gives s zone hours target name x

-- A value that passes the checks of its feature.
structure Feature.Accepts (f : Feature) (x : Float) : Prop where
  finite : x.isFinite = true
  least : ∀ least, f.least = some least → ¬ x < least
  greatest : ∀ greatest, f.greatest = some greatest → ¬ x > greatest

inductive Feature.Rejects (f : Feature) (x : Float) : FeatureFault → Prop
  | notFinite (infinite : x.isFinite = false) : Rejects f x (.notFinite f.name)
  | belowLeast {least : Float} (finite : x.isFinite = true) (bound : f.least = some least) (below : x < least) :
      Rejects f x (.belowLeast f.name x least)
  | aboveGreatest {greatest : Float} (finite : x.isFinite = true)
      (least : ∀ least, f.least = some least → ¬ x < least) (bound : f.greatest = some greatest)
      (above : x > greatest) : Rejects f x (.aboveGreatest f.name x greatest)

-- A value that the snapshot has for a feature and that passes.
structure Feature.Supplied (f : Feature) (zone : String) (s : Snapshot) (hours : Nat) (target : Timestamp) (x : Float) :
    Prop where
  given : s.Gives zone hours target f.name x
  accepts : f.Accepts x

-- What keeps a feature from being used.
inductive Feature.Faulty (f : Feature) (zone : String) (s : Snapshot) (hours : Nat) (target : Timestamp) :
    FeatureFault → Prop
  | missing (none : ∀ x, ¬ s.Gives zone hours target f.name x) : Faulty f zone s hours target (.missing f.name hours)
  | rejected {x : Float} {fault : FeatureFault} (given : s.Gives zone hours target f.name x)
      (rejects : f.Rejects x fault) : Faulty f zone s hours target fault

-- The inputs that a schema stands for: one for each feature, in order, standardized after the checks.
def Inputs (zone : String) (s : Snapshot) (hours : Nat) (target : Timestamp) (schema : List Feature)
    (inputs : List Float) : Prop :=
  List.Forall₂ (fun f input => ∃ x, f.Supplied zone s hours target x ∧ input = f.standardize x) schema inputs

-- The first feature of a schema that is at fault, and how.
def FirstFault (zone : String) (s : Snapshot) (hours : Nat) (target : Timestamp) (schema : List Feature)
    (fault : FeatureFault) : Prop :=
  ∃ before f after, schema = before ++ f :: after ∧ (∀ b ∈ before, ∃ x, b.Supplied zone s hours target x) ∧
    f.Faulty zone s hours target fault

section

variable {zone name : String} {s : Snapshot} {hours : Nat} {target : Timestamp} {f : Feature} {x y : Float}
  {fault : FeatureFault}

theorem derived_named {value : Float} (derived : derivedValue? name hours target = some value) :
    name ∈ derivedNames ∧ s.Gives zone hours target name value := by
  unfold derivedValue? at derived
  split at derived
  · rename_i named
    cases derived
    exact ⟨by rw [named]; decide, .horizon named⟩
  · split at derived
    · rename_i named
      cases derived
      exact ⟨by rw [named]; decide, .hourOfDay named⟩
    · split at derived
      · rename_i named
        cases derived
        exact ⟨by rw [named]; decide, .weekday named⟩
      · cases derived

theorem derived_none : derivedValue? name hours target = none ↔ name ∉ derivedNames := by
  unfold derivedValue? derivedNames
  simp only [List.mem_cons, List.not_mem_nil, or_false, not_or]
  split <;> rename_i horizon
  · simp [horizon]
  · split <;> rename_i hourOfDay
    · simp [hourOfDay]
    · split <;> rename_i weekday
      · simp [weekday]
      · simp [horizon, hourOfDay, weekday]

-- A forecast for the very horizon comes before the current value.
theorem lookup_some {features : ZoneFeatures} : features.lookup name hours = some x ↔
    (∃ values, features.forecast.get? hours = some values ∧ values.get? name = some x) ∨
      (∀ values, features.forecast.get? hours = some values → values.get? name = none) ∧
        features.current.get? name = some x := by
  unfold ZoneFeatures.lookup
  cases ahead : features.forecast.get? hours with
  | none => simp
  | some values => cases value : values.get? name <;> simp [value]

-- The value that is taken for a feature.
def Snapshot.value? (s : Snapshot) (zone : String) (hours : Nat) (target : Timestamp) (name : String) : Option Float :=
  match derivedValue? name hours target with
  | some value => some value
  | none => (s.zone? zone).bind (·.lookup name hours)

theorem value_given : s.value? zone hours target name = some x ↔ s.Gives zone hours target name x := by
  unfold Snapshot.value?
  symm
  constructor
  · intro given
    cases given with
    | horizon named => simp [named, derivedValue?]
    | hourOfDay named => simp [named, derivedValue?]
    | weekday named => simp [named, derivedValue?]
    | forecast measured there ahead value =>
        rw [derived_none.mpr measured, there]
        exact lookup_some.mpr (.inl ⟨_, ahead, value⟩)
    | current measured there unforeseen value =>
        rw [derived_none.mpr measured, there]
        exact lookup_some.mpr (.inr ⟨unforeseen, value⟩)
  · intro found
    cases derived : derivedValue? name hours target with
    | some value =>
        rw [derived] at found
        cases found
        exact (derived_named derived).2
    | none =>
        rw [derived] at found
        have measured := derived_none.mp derived
        obtain ⟨features, there, value⟩ := Option.bind_eq_some_iff.mp found
        rcases lookup_some.mp value with ⟨values, ahead, value⟩ | ⟨unforeseen, value⟩
        · exact .forecast measured there ahead value
        · exact .current measured there unforeseen value

theorem check_accepts (accepts : f.Accepts x) : f.check x = .ok x := by
  have least : f.least.filter (x < ·) = none :=
    Option.filter_eq_none_iff.mpr fun least bound => by simp [accepts.least least bound]
  have greatest : f.greatest.filter (x > ·) = none :=
    Option.filter_eq_none_iff.mpr fun greatest bound => by simp [accepts.greatest greatest bound]
  simp [Feature.check, accepts.finite, least, greatest]

theorem check_rejects (rejects : f.Rejects x fault) : f.check x = .error fault := by
  cases rejects with
  | notFinite infinite => simp [Feature.check, infinite]
  | belowLeast finite bound below => simp [Feature.check, finite, bound, below, Option.filter_some]
  | aboveGreatest finite least bound above =>
      have none : f.least.filter (x < ·) = none :=
        Option.filter_eq_none_iff.mpr fun low bound => by simp [least low bound]
      simp [Feature.check, finite, none, bound, above, Option.filter_some]

-- A value passes, or there is something wrong with it.
theorem accepts_or_rejects (f : Feature) (x : Float) : f.Accepts x ∨ ∃ fault, f.Rejects x fault := by
  cases finite : x.isFinite with
  | false => exact .inr ⟨_, .notFinite finite⟩
  | true =>
      by_cases low : ∃ least, f.least = some least ∧ x < least
      · obtain ⟨_, bound, below⟩ := low
        exact .inr ⟨_, .belowLeast finite bound below⟩
      · have least : ∀ least, f.least = some least → ¬ x < least := fun _ bound below => low ⟨_, bound, below⟩
        by_cases high : ∃ greatest, f.greatest = some greatest ∧ x > greatest
        · obtain ⟨_, bound, above⟩ := high
          exact .inr ⟨_, .aboveGreatest finite least bound above⟩
        · exact .inl ⟨finite, least, fun _ bound above => high ⟨_, bound, above⟩⟩

theorem check_passes : f.check x = .ok y ↔ f.Accepts x ∧ y = x := by
  constructor
  · intro passed
    rcases accepts_or_rejects f x with accepts | ⟨fault, rejects⟩
    · exact ⟨accepts, (Except.ok.inj ((check_accepts accepts).symm.trans passed)).symm⟩
    · cases (check_rejects rejects).symm.trans passed
  · rintro ⟨accepts, rfl⟩
    exact check_accepts accepts

theorem check_refuses : f.check x = .error fault ↔ f.Rejects x fault := by
  refine ⟨fun refused => ?_, check_rejects⟩
  rcases accepts_or_rejects f x with accepts | ⟨other, rejects⟩
  · cases (check_accepts accepts).symm.trans refused
  · cases (check_rejects rejects).symm.trans refused
    exact rejects

variable (reached : s.observedAt.addHours? hours = some target)

include reached

theorem raw_value_reached : rawValue zone f s hours =
    match s.value? zone hours target f.name with
    | none => .error (refuse zone (.missing f.name hours))
    | some value => (f.check value).mapError (refuse zone) := by
  simp only [rawValue, reached]
  rfl

theorem raw_value_passes : rawValue zone f s hours = .ok x ↔ f.Supplied zone s hours target x := by
  rw [raw_value_reached reached]
  cases value : s.value? zone hours target f.name with
  | none => exact ⟨nofun, fun supplied => by cases value.symm.trans (value_given.mpr supplied.given)⟩
  | some raw =>
      change (f.check raw).mapError (refuse zone) = .ok x ↔ _
      rw [renamed_passes, check_passes]
      constructor
      · rintro ⟨accepts, rfl⟩
        exact ⟨value_given.mp value, accepts⟩
      · rintro ⟨given, accepts⟩
        obtain rfl := Option.some.inj ((value_given.mpr given).symm.trans value)
        exact ⟨accepts, rfl⟩

theorem raw_value_refused {halt : Halt} : rawValue zone f s hours = .error halt ↔
    ∃ fault, f.Faulty zone s hours target fault ∧ halt = refuse zone fault := by
  rw [raw_value_reached reached]
  cases value : s.value? zone hours target f.name with
  | none =>
      have none : ∀ x, ¬ s.Gives zone hours target f.name x := fun x given => by
        cases value.symm.trans (value_given.mpr given)
      constructor
      · intro refused
        cases refused
        exact ⟨_, .missing none, rfl⟩
      · rintro ⟨fault, faulty, rfl⟩
        cases faulty with
        | missing => rfl
        | rejected given => exact absurd given (none _)
  | some raw =>
      change (f.check raw).mapError (refuse zone) = .error halt ↔ _
      rw [renamed_refused]
      refine exists_congr fun fault => and_congr_left fun _ =>
        check_refuses.trans ⟨fun rejects => ?_, fun faulty => ?_⟩
      · exact .rejected (value_given.mp value) rejects
      · cases faulty with
        | missing none => exact absurd (value_given.mp value) (none raw)
        | rejected given rejects =>
            obtain rfl := Option.some.inj ((value_given.mpr given).symm.trans value)
            exact rejects

variable {schema : List Feature}

theorem input_passes {input : Float} : (rawValue zone f s hours).map f.standardize = .ok input ↔
    ∃ x, f.Supplied zone s hours target x ∧ input = f.standardize x := by
  simp only [← raw_value_passes reached]
  cases rawValue zone f s hours <;> simp [Except.map, eq_comm]

theorem input_refused {halt : Halt} : (rawValue zone f s hours).map f.standardize = .error halt ↔
    ∃ fault, f.Faulty zone s hours target fault ∧ halt = refuse zone fault := by
  rw [← raw_value_refused reached]
  cases rawValue zone f s hours <;> simp [Except.map]

theorem model_inputs_pass {inputs : List Float} :
    modelInputs zone schema s hours = .ok inputs ↔ Inputs zone s hours target schema inputs := by
  simp only [modelInputs, mapM_passes, input_passes reached, Inputs]

theorem model_inputs_refused {halt : Halt} : modelInputs zone schema s hours = .error halt ↔
    ∃ fault, FirstFault zone s hours target schema fault ∧ halt = refuse zone fault := by
  simp only [modelInputs, mapM_stops, input_passes reached, input_refused reached, FirstFault]
  constructor
  · rintro ⟨before, f, after, split, passed, fault, faulty, rfl⟩
    refine ⟨fault, ⟨before, f, after, split, fun b member => ?_, faulty⟩, rfl⟩
    obtain ⟨_, x, supplied, _⟩ := passed b member
    exact ⟨x, supplied⟩
  · rintro ⟨fault, ⟨before, f, after, split, passed, faulty⟩, rfl⟩
    refine ⟨before, f, after, split, fun b member => ?_, fault, faulty, rfl⟩
    obtain ⟨x, supplied⟩ := passed b member
    exact ⟨_, x, supplied, rfl⟩

end

end GridLoad
