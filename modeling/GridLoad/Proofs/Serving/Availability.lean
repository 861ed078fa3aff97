import GridLoad.Proofs.Serving.Provenance
import GridLoad.Proofs.Zone.Availability

/-!
What a service says of its zones and what it does with them are one: a zone that it describes as unavailable is not
forecast, by whatever operation and from whatever was stored, and the other way of a failure is always named.
-/

set_option autoImplicit false

namespace GridLoad

open Program
open GridLoad.Time (Timestamp)

-- A zone that is there and is described as unavailable.
def Unavailable (c : Catalog) (r : Registry) (zone : String) : Prop :=
  ∃ described, describe c r zone = .ok described ∧ described.available = false

-- How an unavailable zone fails: by itself if it is real, through one of its constituents if it is virtual.
def Failure.OfUnavailable (c : Catalog) (zone : String) (f : Failure) : Prop :=
  match c.get? zone with
  | none => (f = .noModel zone ∨ ∃ reason, f = .corruptModel zone reason) ∧
      (f.kind = "model_not_found" ∨ f.kind = "model_corrupt")
  | some g => (∃ m ∈ g.members, ∃ cause, f = .constituent g.id m.zone cause) ∧ f.kind = "constituent_prediction"

-- How forecasts of an unavailable zone end: with such a failure, past the calendar if there is no such time, or with
-- the budget.
inductive Refused {α : Type} (c : Catalog) (zone : String) (horizon : Nat) (s : NamedSnapshot) : Outcome α → Prop
  | failed (f : Failure) (kind : f.OfUnavailable c zone) : Refused c zone horizon s (fail f)
  | past (unrepresentable : s.snapshot.observedAt.addHours? horizon = none) : Refused c zone horizon s (.error .pastCalendar)
  | late : Refused c zone horizon s (.error .outOfTime)

section

variable {c : Catalog} {r : Registry} {zone : String} {horizon : Nat} {s : NamedSnapshot}

theorem unavailable_real (real : c.get? zone = none) (unavailable : Unavailable c r zone) :
    (r.find? zone).any ZoneEntry.isAvailable = false := by
  obtain ⟨described, known, idle⟩ := unavailable
  cases found : r.find? zone with
  | none => rfl
  | some e =>
      simp only [describe, real, found, Except.ok.injEq] at known
      rw [← known] at idle
      exact idle

theorem unavailable_member {g : Group} (found : c.get? zone = some g) (unavailable : Unavailable c r zone) :
    ∃ m ∈ g.members, (r.find? m.zone).any ZoneEntry.isAvailable = false := by
  obtain ⟨described, known, idle⟩ := unavailable
  simp only [describe, found, Except.ok.injEq] at known
  rw [← known, group_available, List.all_eq_false] at idle
  obtain ⟨m, member, missing⟩ := idle
  rw [available_contains, Bool.not_eq_true] at missing
  exact ⟨m, member, missing⟩

theorem refused_error {α β : Type} {halt : Halt} (refused : Refused c zone horizon s (.error halt : Outcome α)) :
    Refused c zone horizon s (.error halt : Outcome β) := by
  cases refused with
  | failed f kind => exact .failed f kind
  | past unrepresentable => exact .past unrepresentable
  | late => exact .late

end

section

variable {setup : Setup} {r : Registry} {zone : String} {horizon : Nat} {s : NamedSnapshot} {Γ : Ledger}

-- A zone without models fails before anything else is looked at.
theorem alone_unavailable (setup : Setup) (horizon : Nat) (s : NamedSnapshot) (now : Timestamp)
    (idle : (r.find? zone).any ZoneEntry.isAvailable = false) :
    ∃ f, alone setup r horizon s now zone = fail f ∧ (f = .noModel zone ∨ ∃ reason, f = .corruptModel zone reason) := by
  obtain ⟨f, failed, kind⟩ := load_unavailable idle
  exact ⟨f, by simp only [alone, zoneForecast, failed], kind⟩

theorem never_alone (unique : ∀ r' ∈ Γ.published, r'.generation = r.generation → r' = r)
    (idle : (r.find? zone).any ZoneEntry.isAvailable = false) (p : Prediction) :
    ¬ Γ.Alone setup (keyOf r zone horizon s) p := by
  rintro ⟨r', served, s', _, generation, _, now, computed⟩
  obtain rfl := unique r' served generation
  obtain ⟨f, failed, _⟩ := alone_unavailable setup horizon s' now idle
  have failure : fail f = .ok p := failed.symm.trans computed
  cases failure

-- Nothing is ever stored for an unavailable zone.
theorem never_made (unique : ∀ r' ∈ Γ.published, r'.generation = r.generation → r' = r)
    (unavailable : Unavailable setup.catalog r zone) (p : Prediction) :
    ¬ Γ.Made setup (keyOf r zone horizon s) p := by
  intro made
  cases found : setup.catalog.get? zone with
  | none =>
      simp only [Ledger.Made, keyOf, found] at made
      exact never_alone unique (unavailable_real found unavailable) p made
  | some g =>
      simp only [Ledger.Made, keyOf, found] at made
      obtain ⟨m, member, idle⟩ := unavailable_member found unavailable
      obtain ⟨parts, _, each, _⟩ := made
      obtain ⟨i, inside, rfl⟩ := List.getElem_of_mem member
      have computed := (each.get inside (each.length_eq ▸ inside)).1
      exact never_alone unique idle _ computed

theorem genuine_unavailable (unavailable : Unavailable setup.catalog r zone) {f : Failure}
    (genuine : Genuine setup r zone horizon s f) : f.OfUnavailable setup.catalog zone := by
  unfold Genuine at genuine
  unfold Failure.OfUnavailable
  cases found : setup.catalog.get? zone with
  | none =>
      rw [found] at genuine
      obtain ⟨now, failed⟩ := genuine
      obtain ⟨f', failed', kind⟩ :=
        alone_unavailable setup horizon s now (unavailable_real found unavailable)
      cases failed.symm.trans failed'
      refine ⟨kind, ?_⟩
      rcases kind with rfl | ⟨reason, rfl⟩
      · exact .inl rfl
      · exact .inr rfl
  | some g =>
      rw [found] at genuine
      obtain ⟨m, member, cause, _, _, rfl⟩ := genuine
      exact ⟨⟨m, member, cause, rfl⟩, rfl⟩

end

section

variable {setup : Setup} {r : Registry} {zone : String} {horizon : Nat} {s : NamedSnapshot} {past : Prop} {t : Transcript}

-- Whether a value was stored or is computed, the calendar ends only where it ends for the computation.
theorem past_cached {key : Key} {compute : Serve (Outcome Prediction)}
    (computed : ∀ t, Meets anyhow (fun _ out => out = .error .pastCalendar → past) compute t) :
    Meets anyhow (fun _ out => out.map (·.prediction) = .error .pastCalendar → past) (cached key compute) t := by
  refine meets_first trivial fun slot _ => meets_first trivial fun entered _ => ?_
  match entered with
  | none => exact fun late => nomatch late
  | some (.found p) => exact fun made => nomatch made
  | some .granted =>
      refine meets_bind (computed _) fun u out ends => meets_first trivial fun _ _ => ?_
      cases out with
      | error halt => exact ends
      | ok p => exact fun made => nomatch made

theorem past_resolve_zone : Meets anyhow
    (fun _ out => out.map (·.prediction) = .error .pastCalendar → s.snapshot.observedAt.addHours? horizon = none)
    (resolveZone setup r horizon s zone) t := by
  refine past_cached fun u => meets_first trivial fun now _ => ?_
  refine meets_bind (meets_anyhow _ _) fun w _ _ => fun broken => ?_
  exact zone_forecast_of_zone broken

theorem past_gather {g : Group} {members : List Member} : Meets anyhow
    (fun _ gathered => gathered.outcome = .error .pastCalendar → s.snapshot.observedAt.addHours? horizon = none)
    (gather (askMember setup r horizon s) g horizon s.token members) t := by
  induction members generalizing t with
  | nil =>
      intro made
      cases made
  | cons m rest ih =>
      rw [gather]
      have asked : Meets anyhow
          (fun _ out => out = .error .pastCalendar → s.snapshot.observedAt.addHours? horizon = none)
          (askMember setup r horizon s m.zone) t := meets_bind past_resolve_zone fun _ _ ends => ends
      refine meets_bind asked fun u out ends => ?_
      cases out with
      | error halt =>
          cases halt with
          | pastCalendar => exact fun _ => ends rfl
          | failed | outOfTime =>
              intro ended
              cases ended
      | ok p =>
          dsimp only
          split
          · intro failed
            cases failed
          · refine meets_bind ih fun w others later broken => ?_
            cases others with
            | mk outcome events =>
                cases outcome with
                | ok parts => cases broken
                | error halt => exact later broken

theorem past_compute_group {g : Group} : Meets anyhow
    (fun _ out => out = .error .pastCalendar → s.snapshot.observedAt.addHours? horizon = none)
    (computeGroup setup r g horizon s) t := by
  refine meets_first trivial fun now _ => ?_
  have asked : Meets anyhow
      (fun _ both => both.1 = .error .pastCalendar → s.snapshot.observedAt.addHours? horizon = none)
      (groupForecast setup.settings.combination (askMember setup r horizon s) g horizon s.token now)
      (t ++ [⟨.act .wallTime, now⟩]) := by
    refine meets_bind past_gather fun u gathered ends => ?_
    split
    · rename_i halt stopped
      intro broken
      have same : (.error halt : Outcome Prediction) = .error .pastCalendar := broken
      cases same
      exact ends stopped
    · exact fun made => nomatch made
  exact meets_bind asked fun u both ends => meets_bind (meets_anyhow _ _) fun _ _ _ => ends

-- A forecast breaks off only where its target time lies past the calendar.
theorem past_resolve : Meets anyhow
    (fun _ out => out.map (·.prediction) = .error .pastCalendar → s.snapshot.observedAt.addHours? horizon = none)
    (resolve setup r zone horizon s) t := by
  unfold resolve
  cases setup.catalog.get? zone with
  | none => exact past_resolve_zone
  | some g => exact past_cached fun _ => past_compute_group

end

-- Under the number of a registry no other was served.
def Ledger.Unique (Γ : Ledger) (r : Registry) : Prop :=
  ∀ r' ∈ Γ.published, r'.generation = r.generation → r' = r

-- What comes of a zone at this horizon with a registry and a snapshot, where no other has the registry's number.
def Heeds {α : Type} (Γ : Ledger) (c : Catalog) (zone : String) (horizon : Nat) (r : Registry) (s : NamedSnapshot)
    (out : Outcome α) : Prop :=
  Γ.Unique r → Unavailable c r zone → Refused c zone horizon s out

section

variable {Γ : Ledger} {v : Service} {r : Registry} {zone : String} {horizon : Nat} {s : NamedSnapshot} {t : Transcript}
  {o : Options}

theorem meets_heeded (served : r ∈ Γ.published) (known : Γ.Knows s) (flat : v.setup.catalog.Flat) : Meets
    (Γ.conduct v.setup) (fun _ out => Heeds Γ v.setup.catalog zone horizon r s out)
    (resolve v.setup r zone horizon s) t := by
  apply meets_weaken (meets_and_anyhow (meets_resolve served known flat t) past_resolve)
  rintro u out ⟨answers, ends⟩ unique unavailable
  match out with
  | .ok c => exact absurd (answers.made c.prediction rfl) (never_made unique unavailable _)
  | .error (.failed f) => exact .failed f (genuine_unavailable unavailable (answers.failed f rfl))
  | .error .pastCalendar => exact .past (ends rfl)
  | .error .outOfTime => exact .late

theorem heeds_error {α β : Type} {c : Catalog} {halt : Halt}
    (heeds : Heeds Γ c zone horizon r s (.error halt : Outcome α)) :
    Heeds Γ c zone horizon r s (.error halt : Outcome β) :=
  fun unique unavailable => refused_error (heeds unique unavailable)

theorem heeds_never {α β : Type} {c : Catalog} {value : α}
    (heeds : Heeds Γ c zone horizon r s (.ok value : Outcome α)) (out : Outcome β) :
    Heeds Γ c zone horizon r s out :=
  fun unique unavailable => nomatch heeds unique unavailable

theorem meets_predict_heeds (flat : v.setup.catalog.Flat) : Meets (Γ.conduct v.setup)
    (Γ.Concludes v zone o (Heeds Γ v.setup.catalog zone horizon)) (v.predict zone horizon o) [] := by
  rw [predict_on_basis]
  refine meets_bounded_on_basis "predict" fun r s t served known => ?_
  refine meets_bind (meets_heeded served known flat) fun u out heeds => ?_
  cases out with
  | error halt => exact heeds_error heeds
  | ok c => exact meets_act trivial fun _ _ => heeds_never heeds _

-- Of a series the first horizon decides.
theorem meets_trend_heeds (flat : v.setup.catalog.Flat) (rest : List Nat) : Meets (Γ.conduct v.setup)
    (Γ.Concludes v zone o (Heeds Γ v.setup.catalog zone horizon)) (v.trend zone (horizon :: rest) o) [] := by
  rw [trend_on_basis]
  refine meets_bounded_on_basis "trend" fun r s t served known => ?_
  rw [Service.series]
  refine meets_bind (meets_heeded served known flat) fun u out heeds => ?_
  cases out with
  | error halt => exact heeds_error heeds
  | ok c =>
      refine meets_act trivial fun _ _ => ?_
      exact meets_bind (meets_series flat served known rest _) fun _ others _ => heeds_never heeds _

-- A request whose snapshot is of a time from which this horizon leads past the calendar.
def Service.Overshoots (v : Service) (zone : String) (horizon : Nat) (o : Options) (t : Transcript) : Prop :=
  ∃ r s, v.Rests zone o t r (.ok s) ∧ s.snapshot.observedAt.addHours? horizon = none

theorem status_from_past {described : ZoneStatus} {last : Option Timestamp} {forecast : Outcome Prediction}
    (broken : Service.statusFrom described last forecast = .error .pastCalendar) : forecast = .error .pastCalendar := by
  match forecast with
  | .ok p => cases broken
  | .error (.failed f) => cases broken
  | .error .pastCalendar => rfl
  | .error .outOfTime => cases broken

theorem meets_forecast_past (flat : v.setup.catalog.Flat) {base : Outcome NamedSnapshot}
    (founds : Γ.Founds v zone {} r base) : Meets (Γ.conduct v.setup)
    (fun _ out => out.map (·.prediction) = .error .pastCalendar →
      ∃ s, base = .ok s ∧ s.snapshot.observedAt.addHours? v.setup.settings.statusHorizon = none)
    (v.forecastOf zone r base) t := by
  cases base with
  | error halt =>
      intro broken
      have same : (.error halt : Outcome Prediction) = .error .pastCalendar := broken
      rcases founds_refused founds with rfl | ⟨f, rfl, _⟩
      · cases same
      · cases same
  | ok s =>
      apply meets_weaken (meets_and_anyhow (meets_resolve founds.served (founds_known founds) flat t) past_resolve)
      intro _ out both broken
      exact ⟨s, rfl, both.2 broken⟩

theorem meets_portrait_past (flat : v.setup.catalog.Flat) : Meets (Γ.conduct v.setup)
    (fun u out => out = .error .pastCalendar → v.Overshoots zone v.setup.settings.statusHorizon {} u)
    (v.portrait zone) [] := by
  refine meets_bind (meets_traced (meets_basis v zone {} [])) fun u both begun => ?_
  obtain ⟨r, base⟩ := both
  obtain ⟨founds, own, rfl, leads⟩ := begun
  dsimp only
  cases describe v.setup.catalog r zone with
  | error f =>
      intro failed
      cases failed
  | ok described =>
      refine meets_bind (meets_traced (meets_forecast_past flat founds)) fun w forecast ends => ?_
      obtain ⟨ends, middle, rfl, _⟩ := ends
      apply meets_weaken (meets_traced (meets_finish_status described forecast _))
      rintro x out ⟨⟨last, rfl⟩, later, rfl, _⟩ broken
      obtain ⟨s, rfl, past⟩ := ends (status_from_past broken)
      exact ⟨r, s, ⟨u, middle ++ later, by simp, leads⟩, past⟩

theorem meets_status_past (flat : v.setup.catalog.Flat) : Meets (Γ.conduct v.setup)
    (fun u out => out = .error .pastCalendar → v.Overshoots zone v.setup.settings.statusHorizon {} u)
    (v.status zone) [] := by
  rw [Service.status_on_basis]
  apply meets_weaken (meets_bounded "status" ?_ (meets_portrait_past flat))
  · rintro u out ⟨raw, ends, rfl⟩ broken
    cases raw with
    | ok value => cases broken
    | error halt =>
        cases halt with
        | pastCalendar => exact ends rfl
        | failed | outOfTime => cases broken
  · rintro u x out ends broken
    obtain ⟨r, s, rests, past⟩ := ends broken
    exact ⟨r, s, rests_append rests x, past⟩

end

-- How an operation treats a zone, with the registry and the snapshot that it rests on: one that is not there is not
-- found; one that is unavailable has no value, and fails for just that where there are a snapshot, such a time and
-- time enough.
structure Treats {α : Type} (v : Service) (zone : String) (horizon : Nat) (r : Registry)
    (base : Outcome NamedSnapshot) (out : Outcome α) : Prop where
  unknown : isKnown v.setup.catalog r zone = false → out = fail (.noModel zone)
  withheld : Unavailable v.setup.catalog r zone → ∀ value, out ≠ .ok value
  failed : Unavailable v.setup.catalog r zone → ∀ s, base = .ok s → s.snapshot.observedAt.addHours? horizon ≠ none →
    out = fail (.timedOut v.setup.settings.requestTimeout) ∨ ∃ f, out = fail f ∧ f.OfUnavailable v.setup.catalog zone

-- What the status of a zone says: either a forecast or why there is none, and no forecast of what is unavailable.
structure Discloses (v : Service) (zone : String) (r : Registry) (base : Outcome NamedSnapshot)
    (out : Outcome ZoneStatus) : Prop where
  unknown : isKnown v.setup.catalog r zone = false → out = fail (.noModel zone)
  given : isKnown v.setup.catalog r zone = true → (∃ status, out = .ok status) ∨
    out = fail (.timedOut v.setup.settings.requestTimeout) ∨ (out = .error .pastCalendar ∧
      ∃ s, base = .ok s ∧ s.snapshot.observedAt.addHours? v.setup.settings.statusHorizon = none)
  either : ∀ status, out = .ok status → status.current.isSome = !status.currentError.isSome
  honest : ∀ status, out = .ok status → status.available = false → status.current = none
  withheld : Unavailable v.setup.catalog r zone → ∀ status, out = .ok status → status.available = false

section

variable {v : Service} {first : Registry} {w : World} {zone : String} {horizon : Nat} {o : Options} {t : Transcript}
  {r : Registry} {base : Outcome NamedSnapshot}

theorem concludes_treats (reachable : Reachable v first w) (counted : w.Counted first) {α : Type} {out : Outcome α}
    (concludes : w.ledger.Concludes v zone o (Heeds w.ledger v.setup.catalog zone horizon) t out) :
    ∃ r base, v.Rests zone o t r base ∧ r ∈ w.history.published ∧ Treats v zone horizon r base out := by
  obtain ⟨r, base, raw, rests, founds, rfl, halts, gives⟩ := concludes
  have unique : w.ledger.Unique r := fun r' served' same =>
    numbered_once (reachable_numbered reachable counted) served' founds.served same
  refine ⟨r, base, rests, founds.served, ?_, ?_, ?_⟩
  · intro missing
    rw [halts _ (founds.missing missing)]
    rfl
  · intro unavailable value made
    have raw_made := settled_ok made.symm
    cases base with
    | error halt => cases (halts halt rfl).symm.trans raw_made
    | ok s =>
        have refused := gives s rfl unique unavailable
        rw [raw_made] at refused
        cases refused
  · rintro unavailable s rfl representable
    cases gives s rfl unique unavailable with
    | failed f kind => exact .inr ⟨f, rfl, kind⟩
    | past unrepresentable => exact absurd unrepresentable representable
    | late => exact .inl rfl

theorem status_either {described status : ZoneStatus} {last : Option Timestamp} {forecast : Outcome Prediction}
    (known : describe v.setup.catalog r zone = .ok described)
    (shown : Service.statusFrom described last forecast = .ok status) :
    status.current.isSome = !status.currentError.isSome := by
  obtain ⟨silent, clean⟩ := described_alone known
  match forecast with
  | .ok p =>
      cases shown
      change true = !described.currentError.isSome
      rw [clean]
      rfl
  | .error (.failed f) =>
      cases shown
      change described.current.isSome = !true
      rw [silent]
      rfl
  | .error .pastCalendar => cases shown
  | .error .outOfTime => cases shown

-- A forecast that fails can take the availability away, and none can give it.
theorem status_available {described status : ZoneStatus} {last : Option Timestamp} {forecast : Outcome Prediction}
    (shown : Service.statusFrom described last forecast = .ok status) :
    (described.available = false → status.available = false) ∧
      (∀ p, forecast = .ok p → status.available = described.available) := by
  match forecast with
  | .ok p =>
      cases shown
      exact ⟨id, fun _ _ => rfl⟩
  | .error (.failed f) =>
      cases shown
      refine ⟨fun idle => ?_, fun _ made => nomatch made⟩
      change (described.available && !Service.isConstituentFailure f) = false
      rw [idle, Bool.false_and]
  | .error .pastCalendar => cases shown
  | .error .outOfTime => cases shown

theorem pictures_disclose {Γ : Ledger} {raw : Outcome ZoneStatus} (founds : Γ.Founds v zone {} r base)
    (unique : Γ.Unique r) (pictures : Pictures Γ v zone r base raw)
    (ends : settled v.setup raw = .error .pastCalendar →
      ∃ s, base = .ok s ∧ s.snapshot.observedAt.addHours? v.setup.settings.statusHorizon = none) :
    Discloses v zone r base (settled v.setup raw) := by
  rcases pictures with ⟨missing, _, rfl⟩ | ⟨described, forecast, last, known, rfl, halts, gives⟩
  · refine ⟨fun _ => rfl, fun there => ?_, fun _ made => (nomatch made), fun _ made => (nomatch made), ?_⟩
    · rcases describe_known v.setup.catalog r zone with ⟨⟨_, found⟩, _⟩ | ⟨_, unknown⟩
      · cases missing.symm.trans found
      · cases there.symm.trans unknown
    · exact fun _ _ made => nomatch made
  · have shown : ∀ {status : ZoneStatus}, settled v.setup (Service.statusFrom described last forecast) = .ok status →
        Service.statusFrom described last forecast = .ok status := fun made => settled_ok made.symm
    refine ⟨fun missing => ?_, fun _ => ?_, fun status made => status_either known (shown made), ?_, ?_⟩
    · rcases describe_known v.setup.catalog r zone with ⟨_, there⟩ | ⟨unknown, _⟩
      · cases missing.symm.trans there
      · cases known.symm.trans unknown
    · match forecast with
      | .ok p => exact .inl ⟨_, rfl⟩
      | .error (.failed f) => exact .inl ⟨_, rfl⟩
      | .error .pastCalendar => exact .inr (.inr ⟨rfl, ends rfl⟩)
      | .error .outOfTime => exact .inr (.inl rfl)
    · -- A forecast would have been made with this very registry.
      intro status made idle
      by_contra current
      obtain ⟨p, current⟩ := Option.ne_none_iff_exists'.mp current
      obtain rfl : forecast = .ok p := status_current known (shown made).symm current
      have same := (status_available (shown made)).2 p rfl
      cases base with
      | error halt => cases halts halt rfl
      | ok s => exact never_made unique ⟨described, known, same.symm.trans idle⟩ p ((gives s rfl).made p rfl)
    · rintro ⟨described', known', idle⟩ status made
      obtain rfl : described = described' := Except.ok.inj (known.symm.trans known')
      exact (status_available (shown made)).1 idle

theorem status_discloses (reachable : Reachable v first w) (counted : w.Counted first) {out : Outcome ZoneStatus}
    (answered : w.Answered (.status zone) t out) :
    ∃ r base, v.Rests zone {} t r base ∧ r ∈ w.history.published ∧ Discloses v zone r base out := by
  have flat := reachable_flat reachable
  obtain ⟨raw, ⟨r, base, rests, founds, pictures⟩, rfl⟩ := answered_meets reachable answered (meets_status flat)
  have unique : w.ledger.Unique r := fun r' served' same =>
    numbered_once (reachable_numbered reachable counted) served' founds.served same
  refine ⟨r, base, rests, founds.served, pictures_disclose founds unique pictures fun broken => ?_⟩
  obtain ⟨_, s, rests', past⟩ := answered_meets reachable answered (meets_status_past flat) broken
  obtain ⟨rfl, rfl⟩ := rests_once rests rests'
  exact ⟨s, rfl, past⟩

/-- What is told of a zone's availability agrees: by the listing, by its description, by the warnings about the
catalog and by what becomes of forecasts of it, whatever requests and reloads there have been and go on. -/
theorem availability_agrees (reachable : Reachable v first w) (counted : w.Counted first) :
    (∀ r, ((zoneSummaries v.setup.catalog r).map (·.zone)).Nodup ∧
      (∀ zone, zone ∈ (zoneSummaries v.setup.catalog r).map (·.zone) ↔ isKnown v.setup.catalog r zone = true) ∧
      (∀ summary ∈ zoneSummaries v.setup.catalog r, ∃ described, describe v.setup.catalog r summary.zone = .ok described ∧
        described.zone = summary.zone ∧ described.kind = summary.kind ∧ described.available = summary.available ∧
        described.members = summary.members) ∧
      ∀ id, (∃ member, Catalog.Warning.missing id member ∈ v.setup.catalog.warnings r.availableZones) ↔
        ∃ summary ∈ zoneSummaries v.setup.catalog r,
          summary.zone = id ∧ summary.kind = .virtual ∧ summary.available = false) ∧
    (∀ t summaries, w.Answered .zones t summaries →
      ∃ r ∈ w.history.published, t = [⟨.act .registry, r⟩] ∧ summaries = zoneSummaries v.setup.catalog r) ∧
    (∀ zone horizon o t out, w.Answered (.predict zone horizon o) t out →
      ∃ r base, v.Rests zone o t r base ∧ r ∈ w.history.published ∧ Treats v zone horizon r base out) ∧
    (∀ zone horizon rest o t out, w.Answered (.trend zone (horizon :: rest) o) t out →
      ∃ r base, v.Rests zone o t r base ∧ r ∈ w.history.published ∧ Treats v zone horizon r base out) ∧
    (∀ zone t out, w.Answered (.status zone) t out →
      ∃ r base, v.Rests zone {} t r base ∧ r ∈ w.history.published ∧ Discloses v zone r base out) := by
  have flat := reachable_flat reachable
  refine ⟨fun r => ⟨listed_once flat r, listed_known flat r, fun _ => listed_described flat, warned_unavailable r⟩,
    ?_, ?_, ?_, ?_⟩
  · intro t summaries answered
    have met : Meets (w.ledger.conduct v.setup) (fun t summaries => ∃ r ∈ w.history.published,
        t = [⟨.act .registry, r⟩] ∧ summaries = zoneSummaries v.setup.catalog r) (Ask.zones.program v) [] :=
      meets_act trivial fun r served => ⟨r, served, rfl, rfl⟩
    exact answered_meets reachable answered met
  · intro zone horizon o t out answered
    exact concludes_treats reachable counted (answered_meets reachable answered (meets_predict_heeds flat))
  · intro zone horizon rest o t out answered
    exact concludes_treats reachable counted (answered_meets reachable answered (meets_trend_heeds flat rest))
  · intro zone t out answered
    exact status_discloses reachable counted answered

end

namespace Sample

-- One of two zones has no model, for its file did not match.
def halved : Registry :=
  Registry.ofSteps 1
    [.model "SCE" .enhanced (model "SCE" .enhanced ["current_load_mw", "temperature_f"] 19631),
      .reject "SP15" .enhanced "checksum mismatch"]

@[irreducible] def halvedRunning : Running :=
  (launch ⟨{}, groups⟩ halved source .empty { wall := morning }).toOption.getD default

def halvedAsks : List Ask :=
  [.predict "LA_METRO" 24 pinned, .trend "SP15" [1, 24] pinned, .status "LA_METRO", .zones]

@[irreducible] def impaired : World :=
  (World.first halved halvedRunning.engine).play halvedRunning.service
    (opening (.predict "SCE" 24 {}) ++ (halvedAsks.zipIdx 1).flatMap fun ask => later ask.2 ask.1)

def failsBy {α : Type} (kind : String) : Outcome α → Bool
  | .error (.failed f) => f.kind = kind
  | _ => false

def unserved : Outcome ZoneStatus → Bool
  | .ok status => status.currentError.isSome
  | .error _ => false

def withoutModel (zone : String) (r : Registry) : Bool :=
  (describe groups r zone).toOption.any fun described => !described.available

theorem impaired_evaluated :
    (impaired.answers (.predict "LA_METRO" 24 pinned) (failsBy "constituent_prediction") = true ∧
      impaired.answers (.trend "SP15" [1, 24] pinned) (failsBy "model_corrupt") = true ∧
      impaired.answers (.status "LA_METRO") unserved = true ∧
      impaired.answers .zones (fun summaries => summaries.map (·.available) = [true, false, false]) = true) ∧
    impaired.history.numbers = [] ∧
    (∀ r ∈ impaired.history.published, withoutModel "LA_METRO" r = true ∧ withoutModel "SP15" r = true) ∧
    (∀ s ∈ impaired.history.named,
      s.snapshot.observedAt.addHours? 24 ≠ none ∧ s.snapshot.observedAt.addHours? 1 ≠ none) := by
  decide +kernel

theorem halved_setup : halvedRunning.service.setup = ⟨{}, groups⟩ := by
  obtain ⟨_, _, _, _, valid, _⟩ := evaluated
  simp only [halvedRunning, launch, valid, Except.toOption, Option.getD_some]

theorem impaired_reachable : Reachable halvedRunning.service halved impaired := by
  obtain ⟨_, _, accepted, _, valid, _⟩ := evaluated
  have started : launch ⟨{}, groups⟩ halved source .empty { wall := morning } = .ok halvedRunning := by
    unfold halvedRunning
    exact launch_valid valid
  unfold impaired
  exact play_reachable (.launched accepted started) _

theorem impaired_counted : impaired.Counted halved := by
  obtain ⟨_, none, _⟩ := impaired_evaluated
  rw [World.Counted, none]
  decide

theorem unavailable_without_model {zone : String} {r : Registry} (without : withoutModel zone r = true) :
    Unavailable groups r zone := by
  obtain ⟨described, known, idle⟩ := (Option.any_eq_true _ _).mp without
  cases found : describe groups r zone with
  | error f =>
      rw [found] at known
      cases known
  | ok other =>
      rw [found] at known
      cases known
      exact ⟨described, found, by simpa using idle⟩

-- An operation that failed for a model or for a constituent had a snapshot.
theorem impaired_based {α : Type} {zone : String} {o : Options} {t : Transcript} {out : Outcome α}
    {right : Registry → NamedSnapshot → Outcome α → Prop} {r : Registry} {base : Outcome NamedSnapshot} {kind : String}
    (concludes : impaired.ledger.Concludes halvedRunning.service zone o right t out) (failed : failsBy kind out = true)
    (other : kind = "constituent_prediction" ∨ kind = "model_corrupt")
    (rests : halvedRunning.service.Rests zone o t r base) : ∃ s ∈ impaired.history.named, base = .ok s := by
  obtain ⟨r', base', raw, rests', founds, rfl, halts, _⟩ := concludes
  obtain ⟨rfl, rfl⟩ := rests_once rests rests'
  cases base with
  | ok s => exact ⟨s, (founds_known founds).1, rfl⟩
  | error halt =>
      obtain rfl := halts halt rfl
      exfalso
      rcases founds_refused founds with rfl | ⟨f, rfl, cause | rfl⟩
      · rcases other with rfl | rfl <;> cases failed
      · cases cause <;> rcases other with rfl | rfl <;> cases failed
      · rcases other with rfl | rfl <;> cases failed

-- What the theorem says of an operation, where it failed for a model or for a constituent.
theorem impaired_fails {α : Type} {zone kind : String} {horizon : Nat} {t : Transcript} {out : Outcome α}
    {right : Registry → NamedSnapshot → Outcome α → Prop}
    (concludes : impaired.ledger.Concludes halvedRunning.service zone pinned right t out)
    (failed : failsBy kind out = true) (other : kind = "constituent_prediction" ∨ kind = "model_corrupt")
    (idle : ∀ r ∈ impaired.history.published, withoutModel zone r = true)
    (inside : ∀ s ∈ impaired.history.named, s.snapshot.observedAt.addHours? horizon ≠ none)
    (treated : ∃ r base, halvedRunning.service.Rests zone pinned t r base ∧ r ∈ impaired.history.published ∧
      Treats halvedRunning.service zone horizon r base out) :
    ∃ f, out = fail f ∧ f.OfUnavailable groups zone := by
  obtain ⟨r, base, rests, served, treats⟩ := treated
  obtain ⟨s, named, rfl⟩ := impaired_based concludes failed other rests
  have unavailable : Unavailable halvedRunning.service.setup.catalog r zone := by
    rw [halved_setup]
    exact unavailable_without_model (idle r served)
  rcases treats.failed unavailable s rfl (inside s named) with rfl | ⟨f, rfl, kind⟩
  · rcases other with rfl | rfl <;> cases failed
  · rw [halved_setup] at kind
    exact ⟨f, rfl, kind⟩

theorem impaired_agrees :
    (∃ t f, impaired.Answered (.predict "LA_METRO" 24 pinned) t (fail f) ∧ f.OfUnavailable groups "LA_METRO") ∧
    (∃ t f, impaired.Answered (.trend "SP15" [1, 24] pinned) t (fail f) ∧ f.OfUnavailable groups "SP15") ∧
    (∃ t status, impaired.Answered (.status "LA_METRO") t (.ok status) ∧ status.available = false ∧
      status.current = none ∧ status.currentError.isSome = true) ∧
    ∃ t, ∃ r ∈ impaired.history.published, impaired.Answered .zones t (zoneSummaries groups r) ∧
      ((zoneSummaries groups r).map (·.zone)).Nodup := by
  obtain ⟨lists, listed, points, series, state⟩ := availability_agrees impaired_reachable impaired_counted
  obtain ⟨⟨metro, south, shown, all⟩, _, idle, inside⟩ := impaired_evaluated
  refine ⟨?_, ?_, ?_, ?_⟩
  · obtain ⟨t, out, answered, failed⟩ := answers_answered metro
    obtain ⟨f, rfl, kind⟩ := impaired_fails (predict_concludes impaired_reachable answered) failed (.inl rfl)
      (fun r served => (idle r served).1) (fun s named => (inside s named).1) (points _ _ _ _ _ answered)
    exact ⟨t, f, answered, kind⟩
  · obtain ⟨t, out, answered, failed⟩ := answers_answered south
    obtain ⟨f, rfl, kind⟩ := impaired_fails (trend_concludes impaired_reachable answered) failed (.inr rfl)
      (fun r served => (idle r served).2) (fun s named => (inside s named).2) (series _ _ _ _ _ _ answered)
    exact ⟨t, f, answered, kind⟩
  · obtain ⟨t, out, answered, failed⟩ := answers_answered shown
    cases out with
    | error halt => cases failed
    | ok status =>
        obtain ⟨r, base, _, served, discloses⟩ := state _ _ _ answered
        have unavailable : Unavailable halvedRunning.service.setup.catalog r "LA_METRO" := by
          rw [halved_setup]
          exact unavailable_without_model (idle r served).1
        have off := discloses.withheld unavailable status rfl
        exact ⟨t, status, answered, off, discloses.honest status rfl off, failed⟩
  · obtain ⟨t, summaries, answered, _⟩ := answers_answered all
    obtain ⟨r, served, _, rfl⟩ := listed t summaries answered
    rw [halved_setup] at answered
    have once := (lists r).1
    rw [halved_setup] at once
    exact ⟨t, r, served, answered, once⟩

end Sample

end GridLoad
