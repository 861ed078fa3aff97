import GridLoad.Proofs.Serving.Schedule
import GridLoad.Proofs.Serving.Sequential

/-!
The cache cannot be told from its absence. Whatever requests, refreshes, reloads and purges came before or at the
same time, a forecast that is answered is the one that is computed anew from the registry and the snapshot that the
request rests on.
-/

set_option autoImplicit false

namespace GridLoad

open Program
open GridLoad.Time (Timestamp)

def ZoneStatus.undated (status : ZoneStatus) : ZoneStatus :=
  { status with current := status.current.map Prediction.undated, lastComputedAt := none }

-- A status whose forecast is computed anew.
def uncachedStatus (setup : Setup) (r : Registry) (zone : String) (base : Outcome NamedSnapshot) (now : Timestamp) :
    Outcome ZoneStatus :=
  match describe setup.catalog r zone with
  | .error f => fail f
  | .ok described =>
      Service.statusFrom described none (base.bind fun s => uncached setup r zone setup.settings.statusHorizon s now)

theorem status_agree {described : ZoneStatus} {last last' : Option Timestamp} {forecast forecast' : Outcome Prediction}
    (agree : Agree forecast forecast') :
    (Service.statusFrom described last forecast).map ZoneStatus.undated =
      (Service.statusFrom described last' forecast').map ZoneStatus.undated := by
  cases forecast' with
  | error halt =>
      rw [agree_error_iff.mp agree]
      cases halt <;> rfl
  | ok p =>
      obtain ⟨q, rfl, same⟩ := agree_ok_iff.mp agree
      simp only [Service.statusFrom, Except.map, ZoneStatus.undated, Option.map_some, same]

section

variable {v : Service} {first : Registry} {w : World} {zone : String} {o : Options} {t : Transcript}

theorem forecast_transparent (distinct : w.ledger.Distinct) {horizon : Nat} {out : Outcome Prediction}
    (concludes : w.ledger.Concludes v zone o (fun r s out => w.ledger.Answers v.setup r horizon s zone out) t out)
    (inTime : out ≠ fail (.timedOut v.setup.settings.requestTimeout)) :
    ∃ r base, v.Rests zone o t r base ∧ w.ledger.Founds v zone o r base ∧
      ∀ now, Agree out (base.bind fun s => uncached v.setup r zone horizon s now) := by
  obtain ⟨r, base, rests, founds, early, halts, gives⟩ := concludes_in_time concludes inTime
  refine ⟨r, base, rests, founds, fun now => ?_⟩
  cases base with
  | error halt =>
      rw [halts halt rfl]
      exact agree_refl _
  | ok s => exact (gives s rfl).same distinct early now

theorem series_transparent (distinct : w.ledger.Distinct) {horizons : List Nat} {out : Outcome (List Prediction)}
    (concludes : w.ledger.Concludes v zone o (fun r s out => w.ledger.AnswersAll v.setup r zone s horizons out) t out)
    (inTime : out ≠ fail (.timedOut v.setup.settings.requestTimeout)) :
    ∃ r base, v.Rests zone o t r base ∧ w.ledger.Founds v zone o r base ∧
      ∀ now, AgreeAll out (base.bind fun s => uncachedSeries v.setup r zone s now horizons) := by
  obtain ⟨r, base, rests, founds, early, halts, gives⟩ := concludes_in_time concludes inTime
  refine ⟨r, base, rests, founds, fun now => ?_⟩
  cases base with
  | error halt =>
      rw [halts halt rfl]
      rfl
  | ok s => exact (gives s rfl).same distinct early now

theorem status_transparent (reachable : Reachable v first w) (distinct : w.ledger.Distinct) {out : Outcome ZoneStatus}
    (answered : w.Answered (.status zone) t out)
    (inTime : out ≠ fail (.timedOut v.setup.settings.requestTimeout)) :
    ∃ r base, v.Rests zone {} t r base ∧ w.ledger.Founds v zone {} r base ∧
      ∀ now, out.map ZoneStatus.undated = (uncachedStatus v.setup r zone base now).map ZoneStatus.undated := by
  obtain ⟨raw, ⟨r, base, rests, founds, pictures⟩, rfl⟩ :=
    answered_meets reachable answered (meets_status (reachable_flat reachable))
  obtain ⟨same, early⟩ := settled_in_time inTime
  refine ⟨r, base, rests, founds, fun now => ?_⟩
  rw [same]
  rcases pictures with ⟨missing, _, rfl⟩ | ⟨described, forecast, last, known, rfl, halts, gives⟩
  · simp only [uncachedStatus, missing]
  · simp only [uncachedStatus, known]
    apply status_agree
    cases base with
    | error halt =>
        rw [halts halt rfl]
        exact agree_refl _
    | ok s =>
        refine (gives s rfl).same distinct ?_ now
        rintro rfl
        exact early rfl

-- What comes of serving a forecast alone, after whatever has happened, is what would come of it without a cache.
theorem serve_transparent (reachable : Reachable v first w) (budget : Option Time.Span) (horizon : Nat) :
    ∃ w' t, Reachable v first w' ∧ w'.engine = (w.engine.serve ⟨budget, v.predict zone horizon o⟩).1 ∧
      (w'.Counted first → w'.Separate →
        (w.engine.serve ⟨budget, v.predict zone horizon o⟩).2 ≠ fail (.timedOut v.setup.settings.requestTimeout) →
        ∃ r base, v.Rests zone o t r base ∧ r ∈ w'.history.published ∧
          ∀ now, Agree (w.engine.serve ⟨budget, v.predict zone horizon o⟩).2
            (base.bind fun s => uncached v.setup r zone horizon s now)) := by
  obtain ⟨w', t, reached, engine, flights⟩ := serve_reachable reachable budget (.predict zone horizon o)
  refine ⟨w', t, reached, engine, fun counted separate inTime => ?_⟩
  have answered : w'.Answered (.predict zone horizon o) t
      (w.engine.serve ⟨budget, v.predict zone horizon o⟩).2 :=
    ⟨w.engine.callers, false, by rw [flights]; exact List.mem_append_right _ (List.mem_singleton_self _)⟩
  have distinct := reachable_distinct reached counted separate
  obtain ⟨r, base, rests, founds, same⟩ := forecast_transparent distinct (predict_concludes reached answered) inTime
  exact ⟨r, base, rests, founds.served, same⟩

end

namespace Sample

end Sample

end GridLoad
