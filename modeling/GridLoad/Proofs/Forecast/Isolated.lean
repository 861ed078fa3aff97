import GridLoad.Proofs.Group.Gathered

/-!
A forecast reads the models and the features of the zones that it is for, and of no others: with two registries and
two snapshots that agree in these it is the same, but for its time and the name of the snapshot.
-/

set_option autoImplicit false

namespace GridLoad

open GridLoad.Time (Timestamp)

-- Snapshots of one time that have the same features for some zones, whatever they have for others.
structure Snapshot.SameFor (zones : List String) (s s' : Snapshot) : Prop where
  observedAt : s.observedAt = s'.observedAt
  features : ∀ zone ∈ zones, s.zone? zone = s'.zone? zone

section

variable {zones : List String} {zone : String} {s s' : Snapshot}

theorem same_for_one (same : s.SameFor zones s') (member : zone ∈ zones) : s.SameFor [zone] s' where
  observedAt := same.observedAt
  features other listed := by
    rw [List.mem_singleton.mp listed]
    exact same.features zone member

theorem override_zone_same (same : s.SameFor zones s') (overrides : Values) (member : zone ∈ zones) :
    (s.overrideZone overrides zone).SameFor zones (s'.overrideZone overrides zone) where
  observedAt := same.observedAt
  features other listed := by
    have here := same.features zone member
    have there := same.features other listed
    simp only [Snapshot.zone?] at here there
    simp only [Snapshot.zone?, Snapshot.overrideZone, Table.modify, here]
    by_cases equal : other = zone
    · rw [equal, Table.get_insert_self, Table.get_insert_self]
    · rw [Table.get_insert_other _ _ _ _ equal, Table.get_insert_other _ _ _ _ equal, there]

-- Overriding values for some of the zones leave their other values as they are.
theorem overrides_same (same : s.SameFor zones s') (overrides : Values) {some : List String} (listed : some ⊆ zones) :
    (s.withOverrides some overrides).SameFor zones (s'.withOverrides some overrides) := by
  induction some generalizing s s' with
  | nil => exact same
  | cons first rest ih =>
      obtain ⟨member, others⟩ := List.cons_subset.mp listed
      exact ih (override_zone_same same overrides member) others

theorem stale_age_same {t t' : Token} (same : s.SameFor zones s') (limit : Nat) (now : Timestamp) :
    staleAge? limit now ⟨t, s⟩ = staleAge? limit now ⟨t', s'⟩ := by
  simp only [staleAge?, same.observedAt]

variable (same : s.SameFor [zone] s')

include same

theorem zone_same : s.zone? zone = s'.zone? zone := same.features zone (List.mem_singleton_self zone)

theorem raw_value_same (f : Feature) (hours : Nat) : rawValue zone f s hours = rawValue zone f s' hours := by
  simp only [rawValue, same.observedAt, zone_same same]

theorem model_shares_same (hours : Nat) (e : ZoneEntry) (weights : List (Variant × Float)) :
    modelShares zone s hours e weights = modelShares zone s' hours e weights :=
  model_shares_congr (fun f => raw_value_same same f hours) e weights

end

-- The same failure, with one name of a snapshot in the place of another.
inductive Failure.Renamed (t t' : Token) : Failure → Failure → Prop
  | same (f : Failure) : Renamed t t' f f
  | featureless (zone : String) :
      Renamed t t' (.invalidFeatures zone ("snapshot " ++ t ++ " has no features for this zone"))
        (.invalidFeatures zone ("snapshot " ++ t' ++ " has no features for this zone"))
  | stale (age limit : Int) : Renamed t t' (.stale t age limit) (.stale t' age limit)
  | constituent (group member : String) {f f' : Failure} (cause : Renamed t t' f f') :
      Renamed t t' (.constituent group member f) (.constituent group member f')

inductive Halt.Renamed (t t' : Token) : Halt → Halt → Prop
  | failed {f f' : Failure} (renamed : f.Renamed t t' f') : Renamed t t' (.failed f) (.failed f')
  | pastCalendar : Renamed t t' .pastCalendar .pastCalendar
  | outOfTime : Renamed t t' .outOfTime .outOfTime

theorem halt_same (t t' : Token) (halt : Halt) : halt.Renamed t t' halt := by
  cases halt with
  | failed failure => exact .failed (.same failure)
  | pastCalendar => exact .pastCalendar
  | outOfTime => exact .outOfTime

-- The same outcome but for its time, and with one name of a snapshot in the place of another.
inductive Renamed {α : Type} (values : α → α → Prop) (t t' : Token) : Outcome α → Outcome α → Prop
  | value {a b : α} (same : values a b) : Renamed values t t' (.ok a) (.ok b)
  | halted {h h' : Halt} (renamed : h.Renamed t t' h') : Renamed values t t' (.error h) (.error h')

-- The same forecast but for its time, and with one name of a snapshot in the place of another.
def Prediction.Renamed (t t' : Token) (p q : Prediction) : Prop :=
  p.token = t ∧ { p with token := t' }.undated = q.undated

abbrev RenamedForecast (t t' : Token) : Outcome Prediction → Outcome Prediction → Prop :=
  Renamed (Prediction.Renamed t t') t t'

-- What the same models gave for the same inputs, with the numbers of two registries and the names of two snapshots.
inductive SameShares (level : Float) (zone : String) (hours number number' : Nat) (t t' : Token) :
    Prediction → Prediction → Prop
  | made (version : String) (now later : Timestamp) (shares : List ModelShare) :
      SameShares level zone hours number number' t t'
        (predictionOfShares level number zone hours t version now shares)
        (predictionOfShares level number' zone hours t' version later shares)

section

variable {α β : Type} {values : α → α → Prop} {others : β → β → Prop} {t t' : Token} {a b : Outcome α}

theorem renamed_map {f g : α → β} (renamed : Renamed values t t' a b) (kept : ∀ x y, values x y → others (f x) (g y)) :
    Renamed others t t' (a.map f) (b.map g) := by
  cases renamed with
  | value same => exact .value (kept _ _ same)
  | halted renamed => exact .halted renamed

theorem renamed_weaken {values' : α → α → Prop} (renamed : Renamed values t t' a b)
    (kept : ∀ x y, values x y → values' x y) : Renamed values' t t' a b := by
  cases renamed with
  | value same => exact .value (kept _ _ same)
  | halted renamed => exact .halted renamed

end

section

variable {level : Float} {r r' : Registry} {zone : String} {hours : Nat} {s s' : NamedSnapshot} {now later : Timestamp}

theorem load_same (entries : r.find? zone = r'.find? zone) : r.load zone = r'.load zone := by
  simp only [Registry.load, entries]

-- The number of a registry is all that its other zones could differ in.
theorem zone_forecast_shares (entries : r.find? zone = r'.find? zone) (same : s.snapshot.SameFor [zone] s'.snapshot) :
    (zoneForecast level r zone hours s now).variants = (zoneForecast level r' zone hours s' later).variants ∧
      Renamed (SameShares level zone hours r.generation r'.generation s.token s'.token) s.token s'.token
        (zoneForecast level r zone hours s now).outcome (zoneForecast level r' zone hours s' later).outcome := by
  unfold zoneForecast
  rw [load_same entries, zone_same same]
  cases r'.load zone with
  | error failure => exact ⟨rfl, .halted (halt_same _ _ _)⟩
  | ok e =>
      simp only [model_shares_same same]
      split
      · exact ⟨rfl, .halted (halt_same _ _ _)⟩
      · split
        · exact ⟨rfl, .halted (.failed (.featureless zone))⟩
        · refine ⟨rfl, ?_⟩
          simp only [Asked.map]
          cases (modelShares zone s'.snapshot hours e (e.manifest.weights.effective e.variants)).outcome with
          | error halt => exact .halted (halt_same _ _ halt)
          | ok shares => exact .value (.made _ now later shares)

theorem zone_forecast_renamed (generations : r.generation = r'.generation) (entries : r.find? zone = r'.find? zone)
    (same : s.snapshot.SameFor [zone] s'.snapshot) :
    RenamedForecast s.token s'.token (zoneForecast level r zone hours s now).outcome
      (zoneForecast level r' zone hours s' later).outcome := by
  refine renamed_weaken (zone_forecast_shares entries same).2 ?_
  rintro p q ⟨version, now, later, shares⟩
  exact ⟨rfl, by rw [generations]; rfl⟩

end

section

variable {level : Float} {hours number number' : Nat} {t t' : Token} {members : List Member}
  {parts others : List (Prediction × Float)}

-- Forecasts of constituents that are alike but for number, name and time.
inductive SameMembers (level : Float) (hours number number' : Nat) (t t' : Token) :
    List (Prediction × Float) → List (Prediction × Float) → Prop
  | nil : SameMembers level hours number number' t t' [] []
  | cons {zone : String} {weight : Float} {p q : Prediction} {parts others : List (Prediction × Float)}
      (first : SameShares level zone hours number number' t t' p q)
      (rest : SameMembers level hours number number' t t' parts others) :
      SameMembers level hours number number' t t' ((p, weight) :: parts) ((q, weight) :: others)

theorem same_members_map {α : Type} {f : Prediction × Float → α} (same : SameMembers level hours number number' t t' parts others)
    (blind : ∀ zone p q weight, SameShares level zone hours number number' t t' p q → f (p, weight) = f (q, weight)) :
    parts.map f = others.map f := by
  induction same with
  | nil => rfl
  | cons first _ ih => simp [ih, blind _ _ _ _ first]

-- Neither the number of the registry nor the name of the snapshot goes into the sum.
theorem aggregate_renamed {group : String} {combination : Combination} {now later : Timestamp}
    (same : SameMembers level hours number number' t t' parts others) :
    (aggregate group hours t combination parts now).Renamed t t' (aggregate group hours t' combination others later) := by
  have points := same_members_map (f := fun p => p.1.point) same (by rintro _ _ _ _ ⟨⟩; rfl)
  have lowers := same_members_map (f := fun p => p.1.lowerHalf) same (by rintro _ _ _ _ ⟨⟩; rfl)
  have uppers := same_members_map (f := fun p => p.1.upperHalf) same (by rintro _ _ _ _ ⟨⟩; rfl)
  have shares := same_members_map (f := fun p => p.1.memberShare p.2) same (by rintro _ _ _ _ ⟨⟩; rfl)
  have levels := same_members_map (f := fun p => p.1.level) same (by rintro _ _ _ _ ⟨⟩; rfl)
  have level : (parts.head?.map fun p => p.1.level) = others.head?.map fun p => p.1.level := by
    rw [← List.head?_map, ← List.head?_map, levels]
  refine ⟨rfl, ?_⟩
  simp only [aggregate, Prediction.undated, points, lowers, uppers, shares, level]

theorem gather_renamed {ask ask' : String → Outcome Prediction} (group : Group)
    (asked : ∀ m ∈ members, Renamed (SameShares level m.zone hours number number' t t') t t' (ask m.zone) (ask' m.zone)) :
    Renamed (SameMembers level hours number number' t t') t t' (gather (m := Id) ask group hours t members).outcome
      (gather (m := Id) ask' group hours t' members).outcome := by
  induction members with
  | nil => exact .value .nil
  | cons m rest ih =>
      have further := ih fun other member => asked other (List.mem_cons_of_mem m member)
      have here := asked m List.mem_cons_self
      generalize first : ask m.zone = out at here
      generalize second : ask' m.zone = out' at here
      cases here with
      | @value p q same =>
          have fits : checkMember group hours t m p = .ok () ∧ checkMember group hours t' m q = .ok () := by
            cases same
            exact ⟨check_member_accepts rfl rfl rfl, check_member_accepts rfl rfl rfl⟩
          rw [gather_alone_ok first fits.1, gather_alone_ok second fits.2]
          exact renamed_map further fun _ _ others => .cons same others
      | halted renamed =>
          cases renamed with
          | failed renamed =>
              rw [gather_alone_failed first, gather_alone_failed second]
              exact .halted (.failed (.constituent group.id m.zone renamed))
          | pastCalendar =>
              rw [gather_alone_halted first (by simp), gather_alone_halted second (by simp)]
              exact .halted .pastCalendar
          | outOfTime =>
              rw [gather_alone_halted first (by simp), gather_alone_halted second (by simp)]
              exact .halted .outOfTime

end

end GridLoad
