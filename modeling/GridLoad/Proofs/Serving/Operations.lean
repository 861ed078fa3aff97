import GridLoad.Proofs.Serving.Basis
import GridLoad.Web.Api

/-!
What each operation of the service comes to, in terms of the registry and the snapshot that it rests on, and what it
keeps to on the way.
-/

set_option autoImplicit false

namespace GridLoad

open Program
open GridLoad.Time (Timestamp)

-- The end of an operation with a budget.
def settled {α : Type} (setup : Setup) : Outcome α → Outcome α
  | .ok value => .ok value
  | .error .pastCalendar => .error .pastCalendar
  | .error (.failed f) => fail f
  | .error .outOfTime => fail (.timedOut setup.settings.requestTimeout)

def AgreeAll (a b : Outcome (List Prediction)) : Prop :=
  a.map (·.map Prediction.undated) = b.map (·.map Prediction.undated)

theorem agree_all_error_iff {a : Outcome (List Prediction)} {halt : Halt} : AgreeAll a (.error halt) ↔ a = .error halt := by
  cases a <;> simp [AgreeAll, Except.map]

theorem agree_all_cons {p q : Prediction} {a b : Outcome (List Prediction)} (first : p.undated = q.undated)
    (rest : AgreeAll a b) : AgreeAll (a.map (p :: ·)) (b.map (q :: ·)) := by
  cases a <;> cases b <;> simp_all [AgreeAll, Except.map]

-- Forecasts at several horizons, each computed anew.
def uncachedSeries (setup : Setup) (r : Registry) (zone : String) (s : NamedSnapshot) (now : Timestamp)
    (horizons : List Nat) : Outcome (List Prediction) :=
  horizons.mapM fun horizon => uncached setup r zone horizon s now

section

variable {setup : Setup} {r : Registry} {zone : String} {s : NamedSnapshot} {now : Timestamp} {horizon : Nat}
  {rest : List Nat}

theorem uncached_series_cons {p : Prediction} (first : uncached setup r zone horizon s now = .ok p) :
    uncachedSeries setup r zone s now (horizon :: rest) = (uncachedSeries setup r zone s now rest).map (p :: ·) := by
  simp only [uncachedSeries, List.mapM_cons, first]
  rfl

theorem uncached_series_halt {halt : Halt} (first : uncached setup r zone horizon s now = .error halt) :
    uncachedSeries setup r zone s now (horizon :: rest) = .error halt := by
  simp only [uncachedSeries, List.mapM_cons, first]
  rfl

end

namespace Ledger

variable (Γ : Ledger)

structure AnswersAll (setup : Setup) (r : Registry) (zone : String) (s : NamedSnapshot) (horizons : List Nat)
    (out : Outcome (List Prediction)) : Prop where
  made : ∀ ps, out = .ok ps → List.Forall₂ (fun h p => Γ.Made setup (keyOf r zone h s) p) horizons ps
  failed : ∀ f, out = .error (.failed f) → ∃ h ∈ horizons, Genuine setup r zone h s f
  same : Γ.Distinct → out ≠ .error .outOfTime → ∀ now, AgreeAll out (uncachedSeries setup r zone s now horizons)

-- An operation that rests on a registry and a snapshot, and comes to what is right for them.
def Concludes {α : Type} (v : Service) (zone : String) (o : Options)
    (right : Registry → NamedSnapshot → Outcome α → Prop) (t : Transcript) (out : Outcome α) : Prop :=
  ∃ r base raw, v.Rests zone o t r base ∧ Γ.Founds v zone o r base ∧ out = settled v.setup raw ∧
    (∀ halt, base = .error halt → raw = .error halt) ∧ ∀ s, base = .ok s → right r s raw

variable {Γ} {setup : Setup} {r : Registry} {zone : String} {s : NamedSnapshot} {horizon : Nat} {rest : List Nat}

theorem answers_all_nil : Γ.AnswersAll setup r zone s [] (.ok []) where
  made ps same := by
    cases same
    exact .nil
  failed f failed := nomatch failed
  same _ _ _ := rfl

theorem answers_all_halt {halt : Halt} (first : Γ.Answers setup r horizon s zone (.error halt)) :
    Γ.AnswersAll setup r zone s (horizon :: rest) (.error halt) where
  made _ same := nomatch same
  failed f failed := ⟨horizon, by simp, first.failed f (by rw [Except.error.inj failed])⟩
  same distinct inTime now := by
    have early : (Except.error halt : Outcome Prediction) ≠ .error .outOfTime := by simpa using inTime
    have here := agree_error_iff.mp (agree_symm (first.same distinct early now))
    rw [uncached_series_halt here]
    rfl

theorem answers_all_cons {p : Prediction} {others : Outcome (List Prediction)}
    (first : Γ.Answers setup r horizon s zone (.ok p)) (later : Γ.AnswersAll setup r zone s rest others) :
    Γ.AnswersAll setup r zone s (horizon :: rest) (others.map (p :: ·)) where
  made ps same := by
    cases others with
    | error halt => cases same
    | ok tail =>
        cases same
        exact .cons (first.made p rfl) (later.made tail rfl)
  failed f failed := by
    cases others with
    | ok tail => cases failed
    | error halt =>
        cases failed
        obtain ⟨h, member, genuine⟩ := later.failed f rfl
        exact ⟨h, by simp [member], genuine⟩
  same distinct inTime now := by
    have early := early_map.mp inTime
    obtain ⟨q, here, same⟩ := agree_ok_iff.mp (agree_symm (first.same distinct (by simp) now))
    rw [uncached_series_cons here]
    exact agree_all_cons same.symm (later.same distinct early now)

end Ledger

open Ledger

section

variable {Γ : Ledger} {v : Service} {zone : String} {o : Options}

theorem meets_bounded {α : Type} {post : Transcript → Outcome α → Prop} {body : Serve (Outcome α)} {t : Transcript}
    (operation : String) (stable : ∀ u x out, post u out → post (u ++ x) out)
    (met : Meets (Γ.conduct v.setup) post body t) :
    Meets (Γ.conduct v.setup) (fun u out => ∃ raw, post u raw ∧ out = settled v.setup raw)
      (bounded v.setup operation body) t := by
  refine meets_bind met fun u raw holds => ?_
  match raw with
  | .ok value => exact meets_act trivial fun _ _ => ⟨.ok value, stable u _ _ holds, rfl⟩
  | .error .pastCalendar => exact ⟨.error .pastCalendar, holds, rfl⟩
  | .error (.failed f) =>
      refine meets_act trivial fun _ _ => meets_act trivial fun _ _ => ?_
      exact ⟨fail f, stable _ _ _ (stable u _ _ holds), rfl⟩
  | .error .outOfTime =>
      refine meets_act trivial fun _ _ => meets_act trivial fun _ _ => ?_
      exact ⟨.error .outOfTime, stable _ _ _ (stable u _ _ holds), rfl⟩

theorem meets_bounded_on_basis {α : Type} {further : Registry → NamedSnapshot → Serve (Outcome α)}
    {right : Registry → NamedSnapshot → Outcome α → Prop} (operation : String)
    (met : ∀ r s t, r ∈ Γ.published → Γ.Knows s →
      Meets (Γ.conduct v.setup) (fun _ out => right r s out) (further r s) t) :
    Meets (Γ.conduct v.setup) (Γ.Concludes v zone o right)
      (bounded v.setup operation (v.onBasis zone o further)) [] := by
  refine meets_weaken (meets_bounded operation ?_ (meets_on_basis met)) ?_
  · rintro u x out ⟨r, base, rests, rest⟩
    exact ⟨r, base, rests_append rests x, rest⟩
  · rintro u out ⟨raw, ⟨r, base, rests, founds, halts, gives⟩, settles⟩
    exact ⟨r, base, raw, rests, founds, settles, halts, gives⟩

theorem meets_predict (flat : v.setup.catalog.Flat) (horizon : Nat) :
    Meets (Γ.conduct v.setup) (Γ.Concludes v zone o fun r s out => Γ.Answers v.setup r horizon s zone out)
      (v.predict zone horizon o) [] := by
  rw [predict_on_basis]
  refine meets_bounded_on_basis "predict" fun r s t served known => ?_
  refine meets_bind (meets_resolve served known flat t) fun u out answers => ?_
  cases out with
  | error halt => exact answers
  | ok c => exact meets_act trivial fun _ _ => answers

theorem meets_series (flat : v.setup.catalog.Flat) {r : Registry} {s : NamedSnapshot} (served' : r ∈ Γ.published)
    (known : Γ.Knows s) (horizons : List Nat) (t : Transcript) :
    Meets (Γ.conduct v.setup) (fun _ out => Γ.AnswersAll v.setup r zone s horizons out)
      (Service.series v.setup r zone s horizons) t := by
  induction horizons generalizing t with
  | nil => exact answers_all_nil
  | cons horizon rest ih =>
      rw [Service.series]
      refine meets_bind (meets_resolve served' known flat t) fun u out answers => ?_
      cases out with
      | error halt => exact answers_all_halt answers
      | ok c =>
          refine meets_act trivial fun _ _ => ?_
          exact meets_bind (ih _) fun _ others later => answers_all_cons answers later

theorem meets_trend (flat : v.setup.catalog.Flat) (horizons : List Nat) :
    Meets (Γ.conduct v.setup) (Γ.Concludes v zone o fun r s out => Γ.AnswersAll v.setup r zone s horizons out)
      (v.trend zone horizons o) [] := by
  rw [trend_on_basis]
  exact meets_bounded_on_basis "trend" fun r s t served known => meets_series flat served known horizons t

theorem describe_known (c : Catalog) (r : Registry) (zone : String) :
    (∃ described, describe c r zone = .ok described) ∧ isKnown c r zone = true ∨
      describe c r zone = .error (.noModel zone) ∧ isKnown c r zone = false := by
  unfold describe isKnown Catalog.contains Registry.contains Table.contains
  cases group : c.get? zone with
  | some g =>
      have listed : c.groups.get? zone = some g := group
      exact .inl ⟨⟨_, rfl⟩, by simp [listed]⟩
  | none =>
      have unlisted : c.groups.get? zone = none := group
      cases entry : r.find? zone with
      | some e =>
          have there : r.zones.get? zone = some e := entry
          exact .inl ⟨⟨_, rfl⟩, by simp [there]⟩
      | none =>
          have missing : r.zones.get? zone = none := entry
          exact .inr ⟨rfl, by simp [unlisted, missing]⟩

end

namespace Service

-- What a status says once its forecast is there, or has failed.
def statusFrom (described : ZoneStatus) (lastComputedAt : Option Timestamp) : Outcome Prediction → Outcome ZoneStatus
  | .ok p => .ok { described with current := some p, lastComputedAt := lastComputedAt }
  | .error (.failed f) => .ok { withoutCurrent described f with lastComputedAt := lastComputedAt }
  | .error halt => .error halt

def finishStatus (zone : String) (described : ZoneStatus) (forecast : Outcome Cached) : Serve (Outcome ZoneStatus) :=
  let finish := fun (status : ZoneStatus) => do
    let lastComputedAt ← act (.lastComputed zone)
    pure (.ok { status with lastComputedAt := lastComputedAt })
  match forecast with
  | .ok c => do
      act (.note (served "status" c))
      finish { described with current := some c.prediction }
  | .error (.failed f) => finish (withoutCurrent described f)
  | .error halt => pure (.error halt)

def forecastOf (v : Service) (zone : String) (r : Registry) : Outcome NamedSnapshot → Serve (Outcome Cached)
  | .error halt => pure (.error halt)
  | .ok s => resolve v.setup r zone v.setup.settings.statusHorizon s

-- A status with its basis: the zone is described, and its forecast looked up where there is a snapshot.
def portrait (v : Service) (zone : String) : Serve (Outcome ZoneStatus) := do
  let both ← v.basis zone {}
  match describe v.setup.catalog both.1 zone with
  | .error f => pure (fail f)
  | .ok described => do
      let forecast ← v.forecastOf zone both.1 both.2
      finishStatus zone described forecast

theorem status_on_basis (v : Service) (zone : String) : v.status zone = bounded v.setup "status" (v.portrait zone) := by
  simp only [status, portrait, basis, LawfulMonad.bind_assoc]
  congr 2
  funext r
  rcases describe_known v.setup.catalog r zone with ⟨⟨d, described⟩, known⟩ | ⟨missing, unknown⟩
  · simp only [described, known, currentForecast, LawfulMonad.bind_assoc, pure_bind, Bool.not_true, Bool.false_eq_true,
      if_false]
    rfl
  · simp only [missing, unknown, Bool.not_false, if_true, pure_bind]

end Service

-- A status comes of a description of the zone and of a forecast.
def Pictures (Γ : Ledger) (v : Service) (zone : String) (r : Registry) (base : Outcome NamedSnapshot)
    (raw : Outcome ZoneStatus) : Prop :=
  (describe v.setup.catalog r zone = .error (.noModel zone) ∧ base = fail (.noModel zone) ∧
    raw = fail (.noModel zone)) ∨
  ∃ described forecast last, describe v.setup.catalog r zone = .ok described ∧
    raw = Service.statusFrom described last forecast ∧ (∀ halt, base = .error halt → forecast = .error halt) ∧
    ∀ s, base = .ok s → Γ.Answers v.setup r v.setup.settings.statusHorizon s zone forecast

section

variable {Γ : Ledger} {v : Service} {zone : String}

theorem meets_finish_status (described : ZoneStatus) (forecast : Outcome Cached) (t : Transcript) :
    Meets (Γ.conduct v.setup)
      (fun _ out => ∃ last, out = Service.statusFrom described last (forecast.map (·.prediction)))
      (Service.finishStatus zone described forecast) t := by
  match forecast with
  | .ok c => exact meets_act trivial fun _ _ => meets_act trivial fun last _ => ⟨last, rfl⟩
  | .error (.failed f) => exact meets_act trivial fun last _ => ⟨last, rfl⟩
  | .error .pastCalendar => exact ⟨none, rfl⟩
  | .error .outOfTime => exact ⟨none, rfl⟩

theorem meets_forecast_of (flat : v.setup.catalog.Flat) {r : Registry} {base : Outcome NamedSnapshot}
    (founds : Γ.Founds v zone {} r base) (t : Transcript) :
    Meets (Γ.conduct v.setup)
      (fun _ forecast => (∀ halt, base = .error halt → forecast = .error halt) ∧
        ∀ s, base = .ok s →
          Γ.Answers v.setup r v.setup.settings.statusHorizon s zone (forecast.map (·.prediction)))
      (v.forecastOf zone r base) t := by
  cases base with
  | error halt => exact ⟨fun other same => (Except.error.inj same) ▸ rfl, fun s same => nomatch same⟩
  | ok s =>
      apply meets_weaken (meets_resolve founds.served (founds_known founds) flat t)
      intro u out answers
      exact ⟨fun halt same => (nomatch same), fun s' same => Except.ok.inj same ▸ answers⟩

theorem meets_described (flat : v.setup.catalog.Flat) {r : Registry} {base : Outcome NamedSnapshot}
    (founds : Γ.Founds v zone {} r base) (t : Transcript) :
    Meets (Γ.conduct v.setup) (fun _ raw => Pictures Γ v zone r base raw)
      (match describe v.setup.catalog r zone with
        | .error f => pure (fail f)
        | .ok described => do
            let forecast ← v.forecastOf zone r base
            Service.finishStatus zone described forecast) t := by
  rcases describe_known v.setup.catalog r zone with ⟨⟨d, described⟩, _⟩ | ⟨missing, unknown⟩
  · rw [described]
    refine meets_bind (meets_forecast_of flat founds t) fun u forecast answers => ?_
    apply meets_weaken (meets_finish_status d forecast u)
    rintro _ out ⟨last, finished⟩
    refine .inr ⟨d, forecast.map (·.prediction), last, described, finished, fun halt refused => ?_, answers.2⟩
    rw [answers.1 halt refused]
    rfl
  · rw [missing]
    exact .inl ⟨missing, founds.missing unknown, rfl⟩

-- A status comes of the registry and the snapshot that the request rests on.
def Portrays (Γ : Ledger) (v : Service) (zone : String) (t : Transcript) (raw : Outcome ZoneStatus) : Prop :=
  ∃ r base, v.Rests zone {} t r base ∧ Γ.Founds v zone {} r base ∧ Pictures Γ v zone r base raw

theorem portrays_append {u : Transcript} {raw : Outcome ZoneStatus} (portrays : Portrays Γ v zone u raw)
    (x : Transcript) : Portrays Γ v zone (u ++ x) raw := by
  obtain ⟨r, base, rests, rest⟩ := portrays
  exact ⟨r, base, rests_append rests x, rest⟩

theorem meets_portrait (flat : v.setup.catalog.Flat) :
    Meets (Γ.conduct v.setup) (Portrays Γ v zone) (v.portrait zone) [] := by
  refine meets_bind (meets_traced (meets_basis v zone {} [])) fun u both begun => ?_
  obtain ⟨r, base⟩ := both
  obtain ⟨founds, own, rfl, leads⟩ := begun
  apply meets_weaken (meets_traced (meets_described flat founds u))
  rintro w raw ⟨pictures, later, rfl, _⟩
  exact ⟨r, base, ⟨u, later, rfl, leads⟩, founds, pictures⟩

theorem meets_status (flat : v.setup.catalog.Flat) :
    Meets (Γ.conduct v.setup) (fun u out => ∃ raw, Portrays Γ v zone u raw ∧ out = settled v.setup raw)
      (v.status zone) [] := by
  rw [Service.status_on_basis]
  exact meets_bounded "status" (fun u x raw portrays => portrays_append portrays x) (meets_portrait flat)

end

end GridLoad
