import GridLoad.Proofs.Forecast.Failures
import GridLoad.Proofs.Serving.Transparency

/-!
A virtual zone is the sum of its constituents as they are served by themselves, whichever is asked for first and
whatever is cached.
-/

set_option autoImplicit false

namespace GridLoad

open Program
open GridLoad.Time (Timestamp)

-- The token was taken, unless the zone is not there at all.
def Accepted (zone : String) (base : Outcome NamedSnapshot) : Prop :=
  base = fail (.noModel zone) ∨ ∃ s, base = .ok s

-- A forecast for a token that was answered in time, from this registry.
def AnsweredFrom (v : Service) (w : World) (r : Registry) (token : Token) (horizon : Nat) (zone : String)
    (out : Outcome Prediction) : Prop :=
  out ≠ fail (.timedOut v.setup.settings.requestTimeout) ∧
    ∃ t base, w.Answered (.predict zone horizon { snapshot := some token }) t out ∧
      v.Rests zone { snapshot := some token } t r base ∧ Accepted zone base

section

variable {v : Service} {first : Registry} {w : World} {zone : String} {horizon : Nat} {token : Token} {r : Registry}
  {s : NamedSnapshot} {out : Outcome Prediction}

theorem missing_alone (missing : isKnown v.setup.catalog r zone = false) (now : Timestamp) :
    alone v.setup r horizon s now zone = fail (.noModel zone) := by
  have absent : r.find? zone = none := by
    simp only [isKnown, Registry.contains, Table.contains, Bool.or_eq_false_iff, Option.isSome_eq_false_iff,
      Option.isNone_iff_eq_none] at missing
    exact missing.2
  have failed : r.load zone = .error (.noModel zone) := by simp only [Registry.load, absent]
  simp only [alone, zoneForecast, failed]

theorem refused_missing {o : Options} (founds : w.ledger.Founds v zone o r (fail (.noModel zone))) :
    isKnown v.setup.catalog r zone = false := by
  cases known : isKnown v.setup.catalog r zone with
  | false => rfl
  | true =>
      have gets := founds.given known
      cases gets with
      | refused _ kind => cases kind

-- A real zone that was asked for by itself gives what it gives as a constituent.
theorem part_alone (reachable : Reachable v first w) (distinct : w.ledger.Distinct)
    (real : v.setup.catalog.get? zone = none) (known : w.ledger.Knows s) (named : s.token = token)
    (answered : AnsweredFrom v w r token horizon zone out) (now : Timestamp) :
    Agree out (alone v.setup r horizon s now zone) := by
  obtain ⟨inTime, t, base, asked, rests, accepted⟩ := answered
  obtain ⟨r', base', rests', founds, same⟩ := forecast_transparent distinct (predict_concludes reachable asked) inTime
  obtain ⟨rfl, rfl⟩ := rests_once rests rests'
  rcases accepted with rfl | ⟨s', rfl⟩
  · rw [missing_alone (refused_missing founds) now]
    exact same now
  · have uncached : Agree out (GridLoad.uncached v.setup r zone horizon s' now) := same now
    simp only [GridLoad.uncached, real] at uncached
    have tokens : s'.token = s.token := (founds_pinned founds).trans named.symm
    have text := distinct.tokens s' (founds_known founds) s known tokens
    exact agree_trans uncached
      (zone_forecast_same_text v.setup.settings.confidenceLevel r zone horizon tokens text now now)

theorem alone_plain (representable : (s.snapshot.observedAt.addHours? horizon).isSome) {now : Timestamp} {halt : Halt}
    (failed : alone v.setup r horizon s now zone = .error halt) : ∃ f, halt = .failed f := by
  have kind := zone_forecast_of_zone failed
  cases halt with
  | failed f => exact ⟨f, rfl⟩
  | outOfTime => exact absurd kind id
  | pastCalendar =>
      have past : s.snapshot.observedAt.addHours? horizon = none := kind
      rw [past] at representable
      cases representable

theorem part_alike (reachable : Reachable v first w) (distinct : w.ledger.Distinct) {m : Member}
    (real : v.setup.catalog.get? m.zone = none) (known : w.ledger.Knows s) (named : s.token = token)
    (representable : (s.snapshot.observedAt.addHours? horizon).isSome)
    (answered : AnsweredFrom v w r token horizon m.zone out) (g : Group) (now : Timestamp) :
    Alike (alone v.setup r horizon s now) g horizon s.token m out := by
  have agree := part_alone reachable distinct real known named answered now
  refine ⟨agree, fun halt failed => ?_, fun p computed => ?_⟩
  · rw [failed] at agree
    exact alone_plain representable (agree_error_iff.mp (agree_symm agree))
  · obtain ⟨version, shares, rfl⟩ := zone_forecast_shape computed
    exact check_member_accepts rfl rfl rfl

-- The fields of a sum, from parts that may have been computed at other times.
theorem sum_fields {g : Group} {p : Prediction} {ps : List Prediction} {parts : List (Prediction × Float)}
    {now : Timestamp} {c : Combination} (same : SameParts parts (ps.zip (g.members.map (·.weight))))
    (many : ps.length = g.members.length)
    (sum : p.undated = (aggregate g.id horizon token c parts now).undated) :
    p.point = total (ps.map (·.point)) ∧ p.lower = p.point - c.halfWidth (ps.map (·.lowerHalf)) ∧
      p.upper = p.point + c.halfWidth (ps.map (·.upperHalf)) ∧
      p.source = .members c.label ((ps.zip g.members).map fun q => q.1.memberShare q.2.weight) := by
  have equal : p.undated = (aggregate g.id horizon token c (ps.zip (g.members.map (·.weight))) now).undated :=
    sum.trans (aggregate_undated same)
  have fieldwise : ∀ {α : Type} (f : Prediction → α),
      (ps.zip (g.members.map (·.weight))).map (fun part => f part.1) = ps.map f := by
    intro α f
    have firsts : (ps.zip (g.members.map (·.weight))).map Prod.fst = ps := List.map_fst_zip (by simp [many])
    rw [← firsts, List.map_map]
    simp [firsts]
  have points : p.point = total (ps.map (·.point)) := by
    have field := congrArg Prediction.point equal
    simpa only [Prediction.undated, aggregate, fieldwise (·.point)] using field
  refine ⟨points, ?_, ?_, ?_⟩
  · have field := congrArg Prediction.lower equal
    simp only [Prediction.undated, aggregate, fieldwise (·.point), fieldwise (·.lowerHalf)] at field
    rw [points]
    exact field
  · have field := congrArg Prediction.upper equal
    simp only [Prediction.undated, aggregate, fieldwise (·.point), fieldwise (·.upperHalf)] at field
    rw [points]
    exact field
  · have field := congrArg Prediction.source equal
    simp only [Prediction.undated, aggregate, List.zip_map_right, List.map_map] at field
    exact field

end

namespace Sample

theorem group_served : service.setup.catalog.get? "LA_METRO" = some group := by
  obtain ⟨_, _, _, found, _⟩ := evaluated
  rw [served_setup]
  exact found

theorem served_from {r : Registry} (only : ∀ r' ∈ served.history.published, r' = r) {zone : String}
    (answers : served.answers (.predict zone 24 pinned) Except.toBool = true) :
    ∃ p, AnsweredFrom service served r token 24 zone (.ok p) := by
  obtain ⟨t, p, r', s, answered, on⟩ := served_points answers
  obtain rfl := only r' on.served
  exact ⟨p, by nofun, t, .ok s, answered, on.rests, .inr ⟨s, rfl⟩⟩

end Sample

end GridLoad
