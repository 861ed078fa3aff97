import GridLoad.Proofs.Forecast.Isolated
import GridLoad.Proofs.Serving.Transparency
import GridLoad.Proofs.Zone.Loading

/-!
Nothing that a service answers for a zone comes from elsewhere. Of two services in whatever state, one may lack zones
that the other has, or hold other models and features for them: as long as they agree in the zones that make up a
virtual zone, they answer alike for it.
-/

set_option autoImplicit false

namespace GridLoad

open GridLoad.Time (Timestamp)

-- Services and registries that agree in what concerns a zone: the settings, the definition of a virtual zone, and
-- what is held for the real zones involved. A forecast of a real zone carries the number of its registry as well.
structure AgreeFor (zone : String) (setup setup' : Setup) (r r' : Registry) : Prop where
  settings : setup.settings = setup'.settings
  defined : setup.catalog.get? zone = setup'.catalog.get? zone
  entries : ∀ real ∈ involvedZones setup.catalog zone, r.find? real = r'.find? real
  numbers : setup.catalog.get? zone = none → r.generation = r'.generation

section

variable {zone : String} {setup setup' : Setup} {r r' : Registry} {s s' : NamedSnapshot} {now later : Timestamp}

theorem uncached_renamed (agree : AgreeFor zone setup setup' r r')
    (same : s.snapshot.SameFor (involvedZones setup.catalog zone) s'.snapshot) (hours : Nat) :
    RenamedForecast s.token s'.token (uncached setup r zone hours s now) (uncached setup' r' zone hours s' later) := by
  obtain ⟨settings, defined, entries, numbers⟩ := agree
  unfold involvedZones at entries same
  simp only [uncached, ← defined, ← settings]
  cases group : setup.catalog.get? zone with
  | none =>
      rw [group] at entries same
      exact zone_forecast_renamed (numbers group) (entries zone (List.mem_singleton_self zone)) same
  | some g =>
      rw [group] at entries same
      simp only [group_forecast_alone]
      have asked : ∀ m ∈ g.members,
          Renamed (SameShares setup.settings.confidenceLevel m.zone hours r.generation r'.generation s.token s'.token)
            s.token s'.token (alone setup r hours s now m.zone) (alone setup r' hours s' later m.zone) :=
        fun m member => (zone_forecast_shares (entries m.zone (List.mem_map_of_mem member))
          (same_for_one same (List.mem_map_of_mem member))).2
      have gathered := gather_renamed g asked
      exact renamed_map gathered fun _ _ parts => aggregate_renamed parts

theorem uncached_series_renamed (agree : AgreeFor zone setup setup' r r')
    (same : s.snapshot.SameFor (involvedZones setup.catalog zone) s'.snapshot) (horizons : List Nat) :
    Renamed (List.Forall₂ (Prediction.Renamed s.token s'.token)) s.token s'.token
      (uncachedSeries setup r zone s now horizons) (uncachedSeries setup' r' zone s' later horizons) := by
  induction horizons with
  | nil => exact .value .nil
  | cons horizon rest ih =>
      have here : RenamedForecast s.token s'.token (uncached setup r zone horizon s now)
          (uncached setup' r' zone horizon s' later) := uncached_renamed agree same horizon
      generalize first : uncached setup r zone horizon s now = out at here
      generalize second : uncached setup' r' zone horizon s' later = out' at here
      cases here with
      | value renamed =>
          rw [uncached_series_cons first, uncached_series_cons second]
          exact renamed_map ih fun _ _ others => .cons renamed others
      | halted renamed =>
          rw [uncached_series_halt first, uncached_series_halt second]
          exact .halted renamed

end

section

variable {α β : Type} {values : α → α → Prop} {others : β → β → Prop} {t t' : Token}

theorem renamed_bind {a b : Outcome α} {f g : α → Outcome β} (renamed : Renamed values t t' a b)
    (kept : ∀ x y, values x y → Renamed others t t' (f x) (g y)) : Renamed others t t' (a.bind f) (b.bind g) := by
  cases renamed with
  | value same => exact kept _ _ same
  | halted renamed => exact .halted renamed

theorem prediction_renamed_agree {p p' q q' : Prediction} (renamed : p.Renamed t t' q) (first : p'.undated = p.undated)
    (second : q'.undated = q.undated) : p'.Renamed t t' q' := by
  refine ⟨(Prediction.undated_aim first).2.2.trans renamed.1, ?_⟩
  rw [second, ← renamed.2]
  exact congrArg (fun p : Prediction => { p with token := t' }) first

theorem renamed_agree {out out' a b : Outcome Prediction} (renamed : RenamedForecast t t' a b) (first : Agree out a)
    (second : Agree out' b) : RenamedForecast t t' out out' := by
  cases renamed with
  | value same =>
      obtain ⟨p, rfl, dated⟩ := agree_ok_iff.mp first
      obtain ⟨q, rfl, dated'⟩ := agree_ok_iff.mp second
      exact .value (prediction_renamed_agree same dated dated')
  | halted renamed =>
      rw [agree_error_iff.mp first, agree_error_iff.mp second]
      exact .halted renamed

theorem all_renamed_agree {ps qs ps' qs' : List Prediction} (renamed : List.Forall₂ (Prediction.Renamed t t') ps qs)
    (first : ps'.map Prediction.undated = ps.map Prediction.undated)
    (second : qs'.map Prediction.undated = qs.map Prediction.undated) :
    List.Forall₂ (Prediction.Renamed t t') ps' qs' := by
  induction renamed generalizing ps' qs' with
  | nil =>
      rw [List.map_eq_nil_iff.mp first, List.map_eq_nil_iff.mp second]
      exact .nil
  | cons here _ ih =>
      obtain ⟨p, rest, rfl, one, others⟩ := List.map_eq_cons_iff.mp first
      obtain ⟨q, rest', rfl, one', others'⟩ := List.map_eq_cons_iff.mp second
      exact .cons (prediction_renamed_agree here one one') (ih others others')

theorem series_renamed_agree {out out' a b : Outcome (List Prediction)}
    (renamed : Renamed (List.Forall₂ (Prediction.Renamed t t')) t t' a b) (first : AgreeAll out a)
    (second : AgreeAll out' b) : Renamed (List.Forall₂ (Prediction.Renamed t t')) t t' out out' := by
  cases renamed with
  | halted renamed =>
      rw [agree_all_error_iff.mp first, agree_all_error_iff.mp second]
      exact .halted renamed
  | value same =>
      cases out with
      | error halt => cases first
      | ok ps =>
          cases out' with
          | error halt => cases second
          | ok qs => exact .value (all_renamed_agree same (Except.ok.inj first) (Except.ok.inj second))

end

theorem group_status_same {r r' : Registry} {g : Group} (entries : ∀ real ∈ g.memberIds, r.find? real = r'.find? real) :
    groupStatus r' g = { groupStatus r g with generation := r'.generation } := by
  have held : (g.members.map fun m => (m.zone, r'.find? m.zone)) = g.members.map fun m => (m.zone, r.find? m.zone) :=
    List.map_congr_left fun m member => by rw [entries m.zone (List.mem_map_of_mem member)]
  simp only [groupStatus, held]

-- What two requests go on with: snapshots of these names that are alike for some zones, or the same end.
abbrev Based (zones : List String) (token token' : Token) : Outcome NamedSnapshot → Outcome NamedSnapshot → Prop :=
  Renamed (fun s s' => s.token = token ∧ s'.token = token' ∧ s.snapshot.SameFor zones s'.snapshot) token token'

-- Two requests for a zone, one to each of two services, which rest on registries that agree and on snapshots that are
-- alike in what concerns the zone.
structure Twins (v v' : Service) (zone : String) (o o' : Options) (t t' : Transcript) (r r' : Registry)
    (token token' : Token) : Prop where
  agree : AgreeFor zone v.setup v'.setup r r'
  rest : ∃ base base', v.Rests zone o t r base ∧ v'.Rests zone o' t' r' base' ∧
    Based (involvedZones v.setup.catalog zone) token token' base base'

section

variable {v v' : Service} {first first' : Registry} {w w' : World} {zone : String} {o o' : Options} {t t' : Transcript}
  {r r' : Registry} {token token' : Token}

theorem based_forecast {base base' : Outcome NamedSnapshot} (agree : AgreeFor zone v.setup v'.setup r r')
    (bases : Based (involvedZones v.setup.catalog zone) token token' base base')
    (horizon : Nat) (now : Timestamp) :
    RenamedForecast token token' (base.bind fun s => uncached v.setup r zone horizon s now)
      (base'.bind fun s => uncached v'.setup r' zone horizon s now) := by
  refine renamed_bind bases ?_
  rintro s s' ⟨rfl, rfl, same⟩
  exact uncached_renamed agree same horizon

theorem based_series {base base' : Outcome NamedSnapshot} (agree : AgreeFor zone v.setup v'.setup r r')
    (bases : Based (involvedZones v.setup.catalog zone) token token' base base')
    (horizons : List Nat) (now : Timestamp) :
    Renamed (List.Forall₂ (Prediction.Renamed token token')) token token'
      (base.bind fun s => uncachedSeries v.setup r zone s now horizons)
      (base'.bind fun s => uncachedSeries v'.setup r' zone s now horizons) := by
  refine renamed_bind bases ?_
  rintro s s' ⟨rfl, rfl, same⟩
  exact uncached_series_renamed agree same horizons

theorem twin_forecasts (reachable : Reachable v first w) (distinct : w.ledger.Distinct)
    (reachable' : Reachable v' first' w') (distinct' : w'.ledger.Distinct)
    (twins : Twins v v' zone o o' t t' r r' token token') {horizon : Nat} {out out' : Outcome Prediction}
    (answered : w.Answered (.predict zone horizon o) t out)
    (answered' : w'.Answered (.predict zone horizon o') t' out')
    (inTime : out ≠ fail (.timedOut v.setup.settings.requestTimeout))
    (inTime' : out' ≠ fail (.timedOut v'.setup.settings.requestTimeout)) : RenamedForecast token token' out out' := by
  obtain ⟨base, base', rests, rests', bases⟩ := twins.rest
  obtain ⟨_, _, own, _, same⟩ := forecast_transparent distinct (predict_concludes reachable answered) inTime
  obtain ⟨_, _, own', _, same'⟩ := forecast_transparent distinct' (predict_concludes reachable' answered') inTime'
  obtain ⟨rfl, rfl⟩ := rests_once own rests
  obtain ⟨rfl, rfl⟩ := rests_once own' rests'
  exact renamed_agree (based_forecast twins.agree bases horizon ⟨0, 0⟩) (same ⟨0, 0⟩) (same' ⟨0, 0⟩)

theorem twin_series (reachable : Reachable v first w) (distinct : w.ledger.Distinct)
    (reachable' : Reachable v' first' w') (distinct' : w'.ledger.Distinct)
    (twins : Twins v v' zone o o' t t' r r' token token') {horizons : List Nat} {out out' : Outcome (List Prediction)}
    (answered : w.Answered (.trend zone horizons o) t out)
    (answered' : w'.Answered (.trend zone horizons o') t' out')
    (inTime : out ≠ fail (.timedOut v.setup.settings.requestTimeout))
    (inTime' : out' ≠ fail (.timedOut v'.setup.settings.requestTimeout)) :
    Renamed (List.Forall₂ (Prediction.Renamed token token')) token token' out out' := by
  obtain ⟨base, base', rests, rests', bases⟩ := twins.rest
  obtain ⟨_, _, own, _, same⟩ := series_transparent distinct (trend_concludes reachable answered) inTime
  obtain ⟨_, _, own', _, same'⟩ := series_transparent distinct' (trend_concludes reachable' answered') inTime'
  obtain ⟨rfl, rfl⟩ := rests_once own rests
  obtain ⟨rfl, rfl⟩ := rests_once own' rests'
  exact series_renamed_agree (based_series twins.agree bases horizons ⟨0, 0⟩) (same ⟨0, 0⟩) (same' ⟨0, 0⟩)

-- The statuses of a virtual zone describe the same constituents, and show forecasts that are alike.
theorem twin_statuses (reachable : Reachable v first w) (distinct : w.ledger.Distinct)
    (reachable' : Reachable v' first' w') (distinct' : w'.ledger.Distinct) {g : Group}
    (found : v.setup.catalog.get? zone = some g) (twins : Twins v v' zone {} {} t t' r r' token token')
    {out out' : Outcome ZoneStatus} (answered : w.Answered (.status zone) t out)
    (answered' : w'.Answered (.status zone) t' out')
    (inTime : out ≠ fail (.timedOut v.setup.settings.requestTimeout))
    (inTime' : out' ≠ fail (.timedOut v'.setup.settings.requestTimeout)) :
    ∃ described forecast forecast', RenamedForecast token token' forecast forecast' ∧
      out.map ZoneStatus.undated = (Service.statusFrom described none forecast).map ZoneStatus.undated ∧
      out'.map ZoneStatus.undated = (Service.statusFrom { described with generation := r'.generation } none
        forecast').map ZoneStatus.undated := by
  obtain ⟨base, base', rests, rests', bases⟩ := twins.rest
  obtain ⟨_, _, own, _, same⟩ := status_transparent reachable distinct answered inTime
  obtain ⟨_, _, own', _, same'⟩ := status_transparent reachable' distinct' answered' inTime'
  obtain ⟨rfl, rfl⟩ := rests_once rests own
  obtain ⟨rfl, rfl⟩ := rests_once rests' own'
  have found' : v'.setup.catalog.get? zone = some g := twins.agree.defined.symm.trans found
  have entries := twins.agree.entries
  simp only [involvedZones, found] at entries
  refine ⟨groupStatus r g, _, _,
    based_forecast twins.agree bases v.setup.settings.statusHorizon ⟨0, 0⟩, ?_, ?_⟩
  · rw [same ⟨0, 0⟩]
    simp only [uncachedStatus, describe, found]
  · rw [same' ⟨0, 0⟩]
    simp only [uncachedStatus, describe, found', twins.agree.settings, group_status_same entries]

/-- A zone's forecast rests on its own models and features alone. What a service answers for a virtual zone rests on
those of its constituents: two services that agree in them answer alike, but for the times and the names of the
snapshots, whatever else they hold or lack. -/
theorem nothing_from_elsewhere (reachable : Reachable v first w) (counted : w.Counted first) (separate : w.Separate)
    (reachable' : Reachable v' first' w') (counted' : w'.Counted first') (separate' : w'.Separate) :
    (∀ (level : Float) (r r' : Registry) (zone : String) (hours : Nat) (s s' : NamedSnapshot) (now later : Timestamp),
      r.generation = r'.generation → r.find? zone = r'.find? zone → s.snapshot.SameFor [zone] s'.snapshot →
      (zoneForecast level r zone hours s now).variants = (zoneForecast level r' zone hours s' later).variants ∧
        RenamedForecast s.token s'.token (zoneForecast level r zone hours s now).outcome
          (zoneForecast level r' zone hours s' later).outcome) ∧
    (∀ zone horizon o o' t t' r r' token token' out out', Twins v v' zone o o' t t' r r' token token' →
      w.Answered (.predict zone horizon o) t out → w'.Answered (.predict zone horizon o') t' out' →
      out ≠ fail (.timedOut v.setup.settings.requestTimeout) →
      out' ≠ fail (.timedOut v'.setup.settings.requestTimeout) → RenamedForecast token token' out out') ∧
    (∀ zone horizons o o' t t' r r' token token' out out', Twins v v' zone o o' t t' r r' token token' →
      w.Answered (.trend zone horizons o) t out → w'.Answered (.trend zone horizons o') t' out' →
      out ≠ fail (.timedOut v.setup.settings.requestTimeout) →
      out' ≠ fail (.timedOut v'.setup.settings.requestTimeout) →
      Renamed (List.Forall₂ (Prediction.Renamed token token')) token token' out out') ∧
    (∀ zone g t t' r r' token token' out out', v.setup.catalog.get? zone = some g →
      Twins v v' zone {} {} t t' r r' token token' →
      w.Answered (.status zone) t out → w'.Answered (.status zone) t' out' →
      out ≠ fail (.timedOut v.setup.settings.requestTimeout) →
      out' ≠ fail (.timedOut v'.setup.settings.requestTimeout) →
      ∃ described forecast forecast', RenamedForecast token token' forecast forecast' ∧
        out.map ZoneStatus.undated = (Service.statusFrom described none forecast).map ZoneStatus.undated ∧
        out'.map ZoneStatus.undated = (Service.statusFrom { described with generation := r'.generation } none
          forecast').map ZoneStatus.undated) ∧
    (∀ zone place entries others,
      (zoneFolders place entries).filter (·.1 = zone) = (zoneFolders place others).filter (·.1 = zone) →
      (zonesOf place entries).get? zone = (zonesOf place others).get? zone) ∧
    (∀ (zones overridden : List String) (s s' : NamedSnapshot) (overrides : Values) (limit : Nat) (now : Timestamp),
      s.snapshot.SameFor zones s'.snapshot → overridden ⊆ zones →
      staleAge? limit now s = staleAge? limit now s' ∧
        (s.snapshot.withOverrides overridden overrides).SameFor zones
          (s'.snapshot.withOverrides overridden overrides)) := by
  have distinct := reachable_distinct reachable counted separate
  have distinct' := reachable_distinct reachable' counted' separate'
  refine ⟨?_, ?_, ?_, ?_, ?_, ?_⟩
  · intro level r r' zone hours s s' now later generations entries same
    exact ⟨(zone_forecast_shares entries same).1, zone_forecast_renamed generations entries same⟩
  · intro zone horizon o o' t t' r r' token token' out out' twins answered answered' inTime inTime'
    exact twin_forecasts reachable distinct reachable' distinct' twins answered answered' inTime inTime'
  · intro zone horizons o o' t t' r r' token token' out out' twins answered answered' inTime inTime'
    exact twin_series reachable distinct reachable' distinct' twins answered answered' inTime inTime'
  · intro zone g t t' r r' token token' out out' found twins answered answered' inTime inTime'
    exact twin_statuses reachable distinct reachable' distinct' found twins answered answered' inTime inTime'
  · intro zone place entries others same
    exact directory_entry zone same
  · intro zones overridden s s' overrides limit now same listed
    exact ⟨stale_age_same same limit now, overrides_same same overrides listed⟩

end

namespace Sample

/-! The worked example with a third zone, whose models were rejected and whose features are its own. -/

def wider : Registry :=
  { registry 1 with
    generation := 7
    zones := (registry 1).zones.insert "PGAE" { enhanced := .rejected "checksum mismatch" } }

def widerSnapshot : Snapshot :=
  { snapshot morning with zones := (snapshot morning).zones.insert "PGAE" (features 9000 70) }

def widerSource : Source := { source with origin := .fixed (.ok widerSnapshot) }

@[irreducible] def widerRunning : Running :=
  (launch ⟨{}, groups⟩ wider widerSource .empty { wall := morning }).toOption.getD default

@[irreducible] def widened : World :=
  (World.first wider widerRunning.engine).play widerRunning.service (opening (.predict "LA_METRO" 24 {}))

theorem widened_evaluated :
    widened.answers (.predict "LA_METRO" 24 {}) Except.toBool = true ∧ widened.history.numbers = [] ∧
      widened.history.published.length = 1 ∧ ∀ s ∈ widened.history.named, s.snapshot = widerSnapshot := by
  decide +kernel

theorem widened_reachable : Reachable widerRunning.service wider widened := by
  obtain ⟨_, _, accepted, _, valid, _⟩ := evaluated
  have launched : launch ⟨{}, groups⟩ wider widerSource .empty { wall := morning } = .ok widerRunning := by
    simp only [widerRunning, launch, valid, Except.toOption, Option.getD_some]
  unfold widened
  exact play_reachable (.launched accepted launched) _

theorem widened_setup : widerRunning.service.setup = ⟨{}, groups⟩ := by
  obtain ⟨_, _, _, _, valid, _⟩ := evaluated
  simp only [widerRunning, launch, valid, Except.toOption, Option.getD_some]

theorem widened_counted : widened.Counted wider := by
  obtain ⟨_, none, _⟩ := widened_evaluated
  rw [World.Counted, none]
  decide

-- Where no reload was made, what is served is what was served at first.
theorem first_only {v : Service} {first r : Registry} {w : World} (reachable : Reachable v first w)
    (counted : w.Counted first) (one : w.history.published.length = 1) (served : r ∈ w.history.published) : r = first := by
  obtain ⟨later, published, _⟩ := (reachable_numbered reachable counted).servers
  rw [published] at one served
  simpa [List.length_eq_zero_iff.mp (Nat.succ.inj one)] using served

theorem wider_agrees : AgreeFor "LA_METRO" service.setup widerRunning.service.setup (registry 1) wider where
  settings := by rw [served_setup, widened_setup]
  defined := by rw [served_setup, widened_setup]
  entries real involved := by
    obtain ⟨_, _, _, found, _⟩ := evaluated
    rw [served_setup] at involved
    simp only [involvedZones, found] at involved
    have other : real ≠ "PGAE" := by
      rintro rfl
      exact absurd involved (by decide)
    exact (Table.get_insert_other _ _ _ _ other).symm
  numbers none := by
    obtain ⟨_, _, _, found, _⟩ := evaluated
    rw [served_setup] at none
    cases found.symm.trans none

theorem wider_same_for : (snapshot morning).SameFor (involvedZones groups "LA_METRO") widerSnapshot where
  observedAt := rfl
  features real involved := by
    obtain ⟨_, _, _, found, _⟩ := evaluated
    simp only [involvedZones, found] at involved
    have other : real ≠ "PGAE" := by
      rintro rfl
      exact absurd involved (by decide)
    exact (Table.get_insert_other _ _ _ _ other).symm

theorem widened_alike : ∃ t t' p p' token token', served.Answered (.predict "LA_METRO" 24 pinned) t (.ok p) ∧
    widened.Answered (.predict "LA_METRO" 24 {}) t' (.ok p') ∧ RenamedForecast token token' (.ok p) (.ok p') := by
  obtain ⟨⟨⟨_, _, metro, _⟩, _, _, ⟨_, one, named, _⟩, _⟩, _⟩ := evaluated
  obtain ⟨answers, _, one', named'⟩ := widened_evaluated
  have counted' := widened_counted
  have separate' : widened.Separate := separate_once named'
  obtain ⟨_, alike, _⟩ := nothing_from_elsewhere served_reachable served_counted served_separate widened_reachable
    counted' separate'
  obtain ⟨t, p, r, s, answered, rests⟩ := served_points metro
  obtain ⟨t', out, answered', ok⟩ := answers_answered answers
  obtain ⟨p', rfl⟩ := ok_of_to_bool ok
  obtain ⟨r', s', rests', founds, _⟩ := concludes_ok (predict_concludes widened_reachable answered')
  obtain rfl := first_only served_reachable served_counted one rests.served
  obtain rfl := first_only widened_reachable counted' one' founds.served
  have same : s.snapshot.SameFor (involvedZones service.setup.catalog "LA_METRO") s'.snapshot := by
    rw [named s rests.named, named' s' (founds_known founds).1, served_setup]
    exact wider_same_for
  have twins : Twins service widerRunning.service "LA_METRO" pinned {} t t' (registry 1) wider s.token s'.token :=
    ⟨wider_agrees, _, _, rests.rests, rests', .value ⟨rfl, rfl, same⟩⟩
  exact ⟨t, t', p, p', s.token, s'.token, answered, answered',
    alike _ _ _ _ _ _ _ _ _ _ _ _ twins answered answered' (by nofun) (by nofun)⟩

end Sample

end GridLoad
