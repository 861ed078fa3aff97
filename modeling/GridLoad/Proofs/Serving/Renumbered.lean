import GridLoad.Proofs.Serving.Isolation

/-!
Registries that differ in their number alone. What is computed with one is what is computed with the other, but for the
number itself.
-/

set_option autoImplicit false

namespace GridLoad

open GridLoad.Time (Timestamp)

def Provenance.unnumbered : Provenance → Provenance
  | .models version _ shares => .models version 0 shares
  | .members combination shares => .members combination shares

-- A forecast without its time and the number of its registry.
def Prediction.plain (p : Prediction) : Prediction := { p.undated with source := p.source.unnumbered }

-- A status without the number of its registry, the times and the number in its forecast.
def ZoneStatus.plain (status : ZoneStatus) : ZoneStatus :=
  { status with current := status.current.map Prediction.plain, lastComputedAt := none, generation := 0 }

theorem plain_undated {p q : Prediction} (same : p.undated = q.undated) : p.plain = q.plain :=
  congrArg (fun p : Prediction => { p with source := p.source.unnumbered }) same

theorem plain_all_undated {ps qs : List Prediction} (same : ps.map Prediction.undated = qs.map Prediction.undated) :
    ps.map Prediction.plain = qs.map Prediction.plain := by
  have apart : Prediction.plain =
      (fun p : Prediction => { p with source := p.source.unnumbered }) ∘ Prediction.undated := rfl
  rw [apart, ← List.map_map, same, List.map_map]

section

variable {α β γ : Type}

-- Outcomes that agree in a part agree in what follows from that part.
theorem map_through {f : α → β} {g : α → γ} {a b : Outcome α} (coarser : ∀ x y, f x = f y → g x = g y)
    (same : a.map f = b.map f) : a.map g = b.map g := by
  match a, b with
  | .ok x, .ok y => exact congrArg Except.ok (coarser x y (Except.ok.inj same))
  | .error h, .error h' => exact congrArg Except.error (Except.error.inj same)
  | .ok _, .error _ => cases same
  | .error _, .ok _ => cases same

theorem map_cons_same {f : α → β} {a b : Outcome α} {as bs : Outcome (List α)} (first : a.map f = b.map f)
    (others : as.map (·.map f) = bs.map (·.map f)) :
    (a.bind fun x => as.map (x :: ·)).map (·.map f) = (b.bind fun x => bs.map (x :: ·)).map (·.map f) := by
  match a, b, first with
  | .error _, .error _, first => exact congrArg Except.error (Except.error.inj first)
  | .ok x, .ok y, first =>
      match as, bs, others with
      | .error _, .error _, others => exact congrArg Except.error (Except.error.inj others)
      | .ok xs, .ok ys, others => exact congrArg Except.ok (congrArg₂ List.cons (Except.ok.inj first) (Except.ok.inj others))

theorem failure_renamed_same {t : Token} {f f' : Failure} (renamed : f.Renamed t t f') : f = f' := by
  induction renamed with
  | constituent group member _ ih => rw [ih]
  | _ => rfl

theorem renamed_same {values : α → α → Prop} {t : Token} {a b : Outcome α} {f : α → β} (renamed : Renamed values t t a b)
    (kept : ∀ x y, values x y → f x = f y) : a.map f = b.map f := by
  cases renamed with
  | value same => exact congrArg Except.ok (kept _ _ same)
  | halted renamed =>
      cases renamed with
      | failed renamed => rw [failure_renamed_same renamed]
      | _ => rfl

end

section

variable {setup : Setup} {r r' : Registry} {zone : String} {s : NamedSnapshot} {now later : Timestamp}

theorem uncached_series_step (horizon : Nat) (rest : List Nat) :
    uncachedSeries setup r zone s now (horizon :: rest) =
      (uncached setup r zone horizon s now).bind fun p => (uncachedSeries setup r zone s now rest).map (p :: ·) := by
  cases first : uncached setup r zone horizon s now with
  | ok p => exact uncached_series_cons first
  | error halt => exact uncached_series_halt first

-- A status shows no number but that of its forecast.
theorem status_plain (described : ZoneStatus) (number : Nat) {last last' : Option Timestamp} {a b : Outcome Prediction}
    (same : a.map Prediction.plain = b.map Prediction.plain) :
    (Service.statusFrom { described with generation := number } last a).map ZoneStatus.plain =
      (Service.statusFrom described last' b).map ZoneStatus.plain := by
  match a, b, same with
  | .ok p, .ok q, same =>
      have plain : p.plain = q.plain := Except.ok.inj same
      simp only [Service.statusFrom, Except.map, ZoneStatus.plain, Option.map_some, plain]
  | .error halt, .error _, same =>
      cases same
      cases halt <;> rfl

theorem status_early {described : ZoneStatus} {last : Option Timestamp} {forecast : Outcome Prediction}
    (early : Service.statusFrom described last forecast ≠ .error .outOfTime) : forecast ≠ .error .outOfTime := by
  rintro rfl
  exact early rfl

theorem same_for_self (zones : List String) (s : Snapshot) : s.SameFor zones s := ⟨rfl, fun _ _ => rfl⟩

variable (zones : r'.zones = r.zones)

include zones

theorem find_renumbered (zone : String) : r'.find? zone = r.find? zone := congrArg (·.get? zone) zones

theorem known_renumbered (c : Catalog) (zone : String) : isKnown c r' zone = isKnown c r zone := by
  simp only [isKnown, Registry.contains, zones]

theorem uncached_renumbered (horizon : Nat) : (uncached setup r' zone horizon s later).map Prediction.plain =
    (uncached setup r zone horizon s now).map Prediction.plain := by
  cases group : setup.catalog.get? zone with
  | none =>
      simp only [uncached, group]
      refine renamed_same (zone_forecast_shares (find_renumbered zones zone) (same_for_self _ _)).2 ?_
      rintro p q ⟨version, now, later, shares⟩
      rfl
  | some g =>
      have agree : AgreeFor zone setup setup r' r :=
        ⟨rfl, rfl, fun real _ => find_renumbered zones real, fun none => by rw [group] at none; cases none⟩
      refine renamed_same (uncached_renamed agree (same_for_self _ _) horizon) ?_
      rintro p q ⟨token, same⟩
      rw [← token] at same
      exact plain_undated same

theorem series_renumbered (horizons : List Nat) :
    (uncachedSeries setup r' zone s later horizons).map (·.map Prediction.plain) =
      (uncachedSeries setup r zone s now horizons).map (·.map Prediction.plain) := by
  induction horizons with
  | nil => rfl
  | cons horizon rest ih =>
      rw [uncached_series_step, uncached_series_step]
      exact map_cons_same (uncached_renumbered zones horizon) ih

theorem describe_renumbered (c : Catalog) (zone : String) :
    describe c r' zone = (describe c r zone).map fun described => { described with generation := r'.generation } := by
  unfold describe
  rw [find_renumbered zones]
  split
  · have held : ∀ real, r'.find? real = r.find? real := find_renumbered zones
    simp only [Except.map, groupStatus, held]
  · rfl
  · rfl

theorem status_renumbered (base : Outcome NamedSnapshot) :
    (uncachedStatus setup r' zone base later).map ZoneStatus.plain =
      (uncachedStatus setup r zone base now).map ZoneStatus.plain := by
  unfold uncachedStatus
  rw [describe_renumbered zones]
  cases describe setup.catalog r zone with
  | error f => rfl
  | ok described =>
      have forecasts : (base.bind fun s => uncached setup r' zone setup.settings.statusHorizon s later).map Prediction.plain =
          (base.bind fun s => uncached setup r zone setup.settings.statusHorizon s now).map Prediction.plain := by
        cases base with
        | error halt => rfl
        | ok s => exact uncached_renumbered zones _
      exact status_plain _ _ forecasts

theorem summaries_renumbered (c : Catalog) : zoneSummaries c r' = zoneSummaries c r := by
  simp only [zoneSummaries, Registry.availableZones, zones]

end

end GridLoad
