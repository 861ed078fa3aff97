import GridLoad.Proofs.Feature.SameText
import GridLoad.Proofs.Forecast.Undated

/-!
Forecasts from two snapshots of one canonical text are the same: what the texts leave open is of no account to them.
-/

set_option autoImplicit false

namespace GridLoad

open GridLoad.Time (Timestamp)

section

variable {κ α : Type} [LT κ] [DecidableEq κ] {same : α → α → Prop} {t u : Table κ α}

theorem rel_cases {a b : Option α} (rel : Option.Rel same a b) :
    (a = none ∧ b = none) ∨ ∃ x y, a = some x ∧ b = some y ∧ same x y := by
  cases rel with
  | none => exact .inl ⟨rfl, rfl⟩
  | some both => exact .inr ⟨_, _, rfl, rfl, both⟩

theorem get_alike (alike : t.Alike same u) (key : κ) : Option.Rel same (t.get? key) (u.get? key) := by
  unfold Table.get?
  unfold Table.Alike at alike
  generalize t.entries = entries at alike
  generalize u.entries = others at alike
  induction alike with
  | nil => exact .none
  | @cons a b _ _ head _ ih =>
      rw [List.find?_cons, List.find?_cons, head.1]
      by_cases here : b.1 = key
      · simp only [here, decide_true]
        exact .some head.2
      · simp only [here, decide_false]
        exact ih

end

section

variable {f g : ZoneFeatures} {s s' : Snapshot} {zone name : String} {hours : Nat}

theorem lookup_alike (alike : f.Alike g) (name : String) (hours : Nat) :
    Option.Rel SameNumber (f.lookup name hours) (g.lookup name hours) := by
  have found : Option.Rel SameNumber ((f.forecast.get? hours).bind (·.get? name))
      ((g.forecast.get? hours).bind (·.get? name)) := by
    rcases rel_cases (get_alike alike.forecast hours) with ⟨first, second⟩ | ⟨values, others, first, second, both⟩
    · rw [first, second]
      exact .none
    · rw [first, second]
      exact get_alike both name
  unfold ZoneFeatures.lookup
  rcases rel_cases found with ⟨first, second⟩ | ⟨x, y, first, second, number⟩
  · rw [first, second]
    exact get_alike alike.current name
  · rw [first, second]
    exact .some number

-- Whole hours lead to the same hour of the same day.
theorem add_hours_alike {t u : Timestamp} (minute : t.seconds / 60 = u.seconds / 60) (hours : Nat) :
    Option.Rel (fun x y => x.hourOfDay = y.hourOfDay ∧ x.weekday = y.weekday) (t.addHours? hours)
      (u.addHours? hours) := by
  have day : (t.seconds + 3600 * hours) / 86400 = (u.seconds + 3600 * hours) / 86400 := by omega
  have hour : (t.seconds + 3600 * hours) % 86400 / 3600 = (u.seconds + 3600 * hours) % 86400 / 3600 := by omega
  unfold Timestamp.addHours?
  simp only
  generalize (if (decide (0 < hours) && t.isLeapSecond) = true then t.nanos - Timestamp.perSecond else t.nanos) = nanos
  generalize (if (decide (0 < hours) && u.isLeapSecond) = true then u.nanos - Timestamp.perSecond else u.nanos) = nanos'
  split
  · rename_i held
    split
    · apply Option.Rel.some
      constructor
      · simp only [Timestamp.hourOfDay, Timestamp.secondOfDay, Timestamp.perDay]
        omega
      · simp only [Timestamp.weekday, Timestamp.day, Timestamp.perDay, day]
    · rename_i lost
      simp only [Timestamp.day, Timestamp.perDay] at held lost
      rw [day] at held
      exact absurd held lost
  · rename_i lost
    split
    · rename_i held
      simp only [Timestamp.day, Timestamp.perDay] at held lost
      rw [day] at lost
      exact absurd held lost
    · exact .none

theorem check_alike {x y : Float} (f : Feature) (number : SameNumber x y) : f.check x = f.check y := by
  by_cases finite : x.isFinite = true
  · rw [number.2 finite]
  · have finite' : ¬ y.isFinite = true := by rwa [← number.1]
    simp [Feature.check, finite, finite']

theorem found_alike (alike : s.Alike s') (zone name : String) (hours : Nat) :
    Option.Rel SameNumber ((s.zone? zone).bind (·.lookup name hours)) ((s'.zone? zone).bind (·.lookup name hours)) := by
  have zones : Option.Rel ZoneFeatures.Alike (s.zone? zone) (s'.zone? zone) := get_alike alike.zones zone
  rcases rel_cases zones with ⟨first, second⟩ | ⟨f, g, first, second, both⟩
  · rw [first, second]
    exact .none
  · rw [first, second]
    exact lookup_alike both name hours

theorem raw_value_alike (alike : s.Alike s') (zone : String) (f : Feature) (hours : Nat) :
    rawValue zone f s hours = rawValue zone f s' hours := by
  unfold rawValue
  rcases rel_cases (add_hours_alike alike.minute hours) with ⟨first, second⟩ | ⟨target, target', first, second, time⟩
  · rw [first, second]
  · have derived : derivedValue? f.name hours target = derivedValue? f.name hours target' := by
      simp only [derivedValue?, time.1, time.2]
    rw [first, second]
    simp only [derived]
    cases derivedValue? f.name hours target' with
    | some value => rfl
    | none =>
        rcases rel_cases (found_alike alike zone f.name hours) with ⟨first, second⟩ | ⟨x, y, first, second, number⟩
        · simp only [first, second]
        · simp only [first, second, check_alike f number]

theorem model_shares_alike (alike : s.Alike s') (zone : String) (hours : Nat) (e : ZoneEntry)
    (weights : List (Variant × Float)) : modelShares zone s hours e weights = modelShares zone s' hours e weights :=
  model_shares_congr (fun f => raw_value_alike alike zone f hours) e weights

end

theorem zone_forecast_same_text (level : Float) (r : Registry) (zone : String) (hours : Nat)
    {s s' : NamedSnapshot} (named : s.token = s'.token)
    (same : s.snapshot.canonicalText = s'.snapshot.canonicalText) (now later : Timestamp) :
    Agree (zoneForecast level r zone hours s now).outcome (zoneForecast level r zone hours s' later).outcome := by
  have alike := same_text_alike same
  have there : (s.snapshot.zone? zone).isNone = (s'.snapshot.zone? zone).isNone := by
    have zones : Option.Rel ZoneFeatures.Alike (s.snapshot.zone? zone) (s'.snapshot.zone? zone) :=
      get_alike alike.zones zone
    rcases rel_cases zones with ⟨first, second⟩ | ⟨f, g, first, second, _⟩
    · rw [first, second]
    · rw [first, second]
      rfl
  unfold zoneForecast
  cases r.load zone with
  | error f => rfl
  | ok e =>
      simp only [there, named, model_shares_alike alike]
      split
      · rfl
      · split
        · rfl
        · cases shares : (modelShares zone s'.snapshot hours e (e.manifest.weights.effective e.variants)).outcome with
          | error halt => simp only [Asked.map, shares]; rfl
          | ok parts => simp only [Asked.map, shares]; rfl

end GridLoad
