import GridLoad.Proofs.Serving.Transparency

/-!
One forecast by every way that leads to it: by itself, in a trend, in a status, and each of them over the web.
-/

set_option autoImplicit false

namespace GridLoad

open Program
open GridLoad.Time (Timestamp)

-- Two requests got a snapshot, or were refused one for the same reason.
inductive SameFooting : Outcome NamedSnapshot → Outcome NamedSnapshot → Prop
  | given (s s' : NamedSnapshot) : SameFooting (.ok s) (.ok s')
  | refused (halt : Halt) : SameFooting (.error halt) (.error halt)

theorem same_footing_symm {base base' : Outcome NamedSnapshot} (same : SameFooting base base') :
    SameFooting base' base := by
  cases same with
  | given s s' => exact .given s' s
  | refused halt => exact .refused halt

theorem same_footing_trans {base base' base'' : Outcome NamedSnapshot} (first : SameFooting base base')
    (second : SameFooting base' base'') : SameFooting base base'' := by
  cases first with
  | given s s' =>
      cases second with
      | given _ s'' => exact .given s s''
  | refused halt =>
      cases second with
      | refused _ => exact .refused halt

section

variable {setup : Setup} {r : Registry} {zone : String} {horizon : Nat} {s s' : NamedSnapshot}

theorem uncached_same_text (named : s.token = s'.token) (text : s.snapshot.canonicalText = s'.snapshot.canonicalText)
    (now later : Timestamp) :
    Agree (uncached setup r zone horizon s now) (uncached setup r zone horizon s' later) := by
  unfold uncached
  have alone : ∀ zone, Agree (zoneForecast setup.settings.confidenceLevel r zone horizon s now).outcome
      (zoneForecast setup.settings.confidenceLevel r zone horizon s' later).outcome := fun zone =>
    zone_forecast_same_text setup.settings.confidenceLevel r zone horizon named text now later
  split
  · exact alone zone
  · rw [group_forecast_alone, group_forecast_alone, named]
    exact sum_up_agree (gather_alone_agree fun m _ => alone m.zone)

theorem series_of_each {now : Timestamp} {horizons : List Nat} {outs : List (Outcome Prediction)}
    (each : List.Forall₂ (fun horizon out => Agree out (uncached setup r zone horizon s now)) horizons outs) :
    AgreeAll (uncachedSeries setup r zone s now horizons) (outs.mapM fun out => out) := by
  induction each with
  | nil => rfl
  | @cons horizon out horizons outs here _ ih =>
      rw [List.mapM_cons]
      cases computed : uncached setup r zone horizon s now with
      | error halt =>
          rw [computed] at here
          rw [uncached_series_halt computed, agree_error_iff.mp here]
          rfl
      | ok p =>
          rw [computed] at here
          obtain ⟨q, rfl, same⟩ := agree_ok_iff.mp here
          rw [uncached_series_cons computed]
          exact agree_all_cons same.symm ih

theorem single_series {now : Timestamp} {out : Outcome Prediction}
    (agree : Agree out (uncached setup r zone horizon s now)) :
    AgreeAll (uncachedSeries setup r zone s now [horizon]) (out.map fun p => [p]) := by
  have one := series_of_each (.cons agree .nil)
  cases out <;> exact one

end

theorem agree_all_trans {a b c : Outcome (List Prediction)} (first : AgreeAll a b) (second : AgreeAll b c) :
    AgreeAll a c := Eq.trans first second

section

variable {v : Service} {first : Registry} {w : World} {zone : String} {horizon : Nat} {token : Token} {r : Registry}
  {base base' : Outcome NamedSnapshot}

theorem pinned_tokens {s s' : NamedSnapshot} (founds : w.ledger.Founds v zone { snapshot := some token } r (.ok s))
    (founds' : w.ledger.Founds v zone { snapshot := some token } r (.ok s')) : s.token = s'.token :=
  (founds_pinned founds).trans (founds_pinned founds').symm

-- On one footing forecasts for a token are one, for its snapshots have one text.
theorem footing_agree (distinct : w.ledger.Distinct)
    (founds : w.ledger.Founds v zone { snapshot := some token } r base)
    (founds' : w.ledger.Founds v zone { snapshot := some token } r base') (footing : SameFooting base base')
    (horizon : Nat) (now : Timestamp) :
    Agree (base.bind fun s => uncached v.setup r zone horizon s now)
      (base'.bind fun s => uncached v.setup r zone horizon s now) := by
  cases footing with
  | refused halt => exact agree_refl _
  | given s s' =>
      have named := pinned_tokens founds founds'
      have text := distinct.tokens s (founds_known founds) s' (founds_known founds') named
      exact uncached_same_text named text now now

end

namespace Web

-- A request for the forecast at one horizon, in its query.
structure GetsPoint (q : Request) (zone : String) (horizon : Nat) (token : Token) : Prop where
  method : q.method = .get
  path : ∃ segment, Route.ofPath? q.path = some (.predict segment) ∧ segmentText? segment = some zone
  query : pointQuery? q.query = some (some horizon, some token)

-- The same in its body, where nothing is put in the stead of the snapshot's values.
structure PostsPoint (q : Request) (zone : String) (horizon : Nat) (token : Token) : Prop where
  method : q.method = .post
  path : ∃ segment, Route.ofPath? q.path = some (.predict segment) ∧ segmentText? segment = some zone
  body : Wanted.ofBody? q.contentType q.body = some ⟨horizon, { snapshot := some token }⟩

-- A request for a trend of one entry.
structure GetsSingle (q : Request) (zone : String) (horizon : Nat) (token : Token) : Prop where
  method : q.method = .get
  path : ∃ segment, Route.ofPath? q.path = some (.trend segment) ∧ segmentText? segment = some zone
  query : ∃ text, trendQuery? q.query = some (text, some token) ∧ horizonsOfText text = .ok [horizon]

variable {v : Service} {q : Request} {zone : String} {horizon : Nat} {token : Token}

theorem gets_point_program (gets : GetsPoint q zone horizon token) :
    Api.answer v q = (v.predict zone horizon { snapshot := some token } >>= fun outcome =>
      pure (respond Prediction.toJson outcome)) := by
  obtain ⟨segment, route, text⟩ := gets.path
  have served : Api.answer v q = Api.predictQuery v q.query zone := by
    simp [Api.answer, route, Route.allows, Api.serve, withZone, text, gets.method]
  simp only [served, Api.predictQuery, gets.query]

theorem posts_point_program (posts : PostsPoint q zone horizon token) :
    Api.answer v q = (v.predict zone horizon { snapshot := some token } >>= fun outcome =>
      pure (respond Prediction.toJson outcome)) := by
  obtain ⟨segment, route, text⟩ := posts.path
  have served : Api.answer v q = Api.predictBody v q zone := by
    simp [Api.answer, route, Route.allows, Api.serve, withZone, text, posts.method]
  simp only [served, Api.predictBody, posts.body]

theorem gets_single_program (gets : GetsSingle q zone horizon token) :
    Api.answer v q = (v.trend zone [horizon] { snapshot := some token } >>= fun outcome =>
      pure (respond (trendJson zone) outcome)) := by
  obtain ⟨segment, route, text⟩ := gets.path
  obtain ⟨list, query, read⟩ := gets.query
  have served : Api.answer v q = Api.trend v q.query zone := by
    simp [Api.answer, route, Route.allows, Api.serve, withZone, text, gets.method]
  simp only [served, Api.trend, query, read]

end Web

-- A forecast for a token that was answered in time, from this registry and on this footing.
def ForecastOn (v : Service) (w : World) (r : Registry) (base : Outcome NamedSnapshot) (token : Token) (zone : String)
    (horizon : Nat) (out : Outcome Prediction) : Prop :=
  out ≠ fail (.timedOut v.setup.settings.requestTimeout) ∧
    ∃ t base', w.Answered (.predict zone horizon { snapshot := some token }) t out ∧
      v.Rests zone { snapshot := some token } t r base' ∧ SameFooting base base'

-- A web request for a zone and a token that was answered in time, from this registry and on this footing.
def WebOn (v : Service) (w : World) (r : Registry) (base : Outcome NamedSnapshot) (token : Token) (zone : String)
    (q : Web.Request) (response : Outcome Web.Response) : Prop :=
  response ≠ .ok (Failure.timedOut v.setup.settings.requestTimeout).response ∧
    ∃ t base', w.Answered (.web q) t response ∧ v.Rests zone { snapshot := some token } t r base' ∧
      SameFooting base base'

section

variable {v : Service} {first : Registry} {w : World} {zone : String} {horizon : Nat} {token : Token} {r : Registry}
  {base : Outcome NamedSnapshot}

theorem forecast_on_agree (reachable : Reachable v first w) (distinct : w.ledger.Distinct)
    (founds : w.ledger.Founds v zone { snapshot := some token } r base) {out : Outcome Prediction}
    (forecast : ForecastOn v w r base token zone horizon out) (now : Timestamp) :
    Agree out (base.bind fun s => uncached v.setup r zone horizon s now) := by
  obtain ⟨inTime, t, base', answered, rests, footing⟩ := forecast
  obtain ⟨r', base'', rests', founds', same⟩ :=
    forecast_transparent distinct (predict_concludes reachable answered) inTime
  obtain ⟨rfl, rfl⟩ := rests_once rests rests'
  exact agree_trans (same now) (footing_agree distinct founds' founds (same_footing_symm footing) horizon now)

-- What the web makes of a request is what the service made of it, written out.
theorem web_concludes {α : Type} {encode : α → Json} {inner : Serve (Outcome α)}
    {right : Registry → NamedSnapshot → Outcome α → Prop} {q : Web.Request} {t : Transcript}
    {response : Outcome Web.Response} {o : Options} (reachable : Reachable v first w)
    (answered : w.Answered (.web q) t response)
    (program : Web.Api.answer v q = inner >>= fun outcome => pure (Web.respond encode outcome))
    (met : Meets (w.ledger.conduct v.setup) (fun t out => w.ledger.Concludes v zone o right t out) inner []) :
    ∃ out, response = Web.respond encode out ∧ w.ledger.Concludes v zone o right t out := by
  have whole : Meets (w.ledger.conduct v.setup)
      (fun t response => ∃ out, response = Web.respond encode out ∧ w.ledger.Concludes v zone o right t out)
      (Web.Api.answer v q) [] := by
    rw [program]
    exact meets_bind met fun u out concludes => ⟨out, rfl, concludes⟩
  exact answered_meets reachable answered whole

theorem respond_in_time {α : Type} {encode : α → Json} {out : Outcome α}
    (inTime : Web.respond encode out ≠ .ok (Failure.timedOut v.setup.settings.requestTimeout).response) :
    out ≠ fail (.timedOut v.setup.settings.requestTimeout) := by
  intro late
  apply inTime
  rw [late]
  rfl

theorem web_point (reachable : Reachable v first w) (distinct : w.ledger.Distinct) {q : Web.Request}
    {response : Outcome Web.Response} (asked : WebOn v w r base token zone q response)
    (program : Web.Api.answer v q = (v.predict zone horizon { snapshot := some token } >>= fun outcome =>
      pure (Web.respond Prediction.toJson outcome))) :
    ∃ out base', response = Web.respond Prediction.toJson out ∧
      w.ledger.Founds v zone { snapshot := some token } r base' ∧ SameFooting base base' ∧
      ∀ now, Agree out (base'.bind fun s => uncached v.setup r zone horizon s now) := by
  obtain ⟨inTime, t, base', answered, rests, footing⟩ := asked
  obtain ⟨out, rfl, concludes⟩ :=
    web_concludes reachable answered program (meets_predict (reachable_flat reachable) horizon)
  obtain ⟨r', base'', rests', founds, same⟩ := forecast_transparent distinct concludes (respond_in_time inTime)
  obtain ⟨rfl, rfl⟩ := rests_once rests rests'
  exact ⟨out, base', rfl, founds, footing, same⟩

theorem web_single (reachable : Reachable v first w) (distinct : w.ledger.Distinct) {q : Web.Request}
    {response : Outcome Web.Response} (asked : WebOn v w r base token zone q response)
    (gets : Web.GetsSingle q zone horizon token) :
    ∃ out base', response = Web.respond (Web.trendJson zone) out ∧
      w.ledger.Founds v zone { snapshot := some token } r base' ∧ SameFooting base base' ∧
      ∀ now, AgreeAll out (base'.bind fun s => uncachedSeries v.setup r zone s now [horizon]) := by
  obtain ⟨inTime, t, base', answered, rests, footing⟩ := asked
  obtain ⟨out, rfl, concludes⟩ := web_concludes reachable answered (Web.gets_single_program gets)
    (meets_trend (reachable_flat reachable) [horizon])
  obtain ⟨r', base'', rests', founds, same⟩ := series_transparent distinct concludes (respond_in_time inTime)
  obtain ⟨rfl, rfl⟩ := rests_once rests rests'
  exact ⟨out, base', rfl, founds, footing, same⟩

-- A series of one, from the forecast on the same footing.
theorem single_on_footing {base' : Outcome NamedSnapshot} (distinct : w.ledger.Distinct)
    (founds : w.ledger.Founds v zone { snapshot := some token } r base)
    (founds' : w.ledger.Founds v zone { snapshot := some token } r base') (footing : SameFooting base base')
    {out : Outcome Prediction} {now : Timestamp}
    (agree : Agree out (base.bind fun s => uncached v.setup r zone horizon s now)) :
    AgreeAll (base'.bind fun s => uncachedSeries v.setup r zone s now [horizon]) (out.map fun p => [p]) := by
  have moved := agree_trans agree (footing_agree distinct founds founds' footing horizon now)
  cases base' with
  | error halt =>
      rw [agree_error_iff.mp moved]
      rfl
  | ok s => exact single_series moved

theorem made_token {Γ : Ledger} {setup : Setup} {k : Key} {p : Prediction} (made : Γ.Made setup k p) :
    p.token = k.token := by
  unfold Ledger.Made at made
  split at made
  · exact (Ledger.alone_aim made).2.2
  · obtain ⟨parts, now, _, rfl⟩ := made
    rfl

theorem each_on (reachable : Reachable v first w) (distinct : w.ledger.Distinct)
    (founds : w.ledger.Founds v zone { snapshot := some token } r base) {horizons : List Nat}
    {outs : List (Outcome Prediction)} (each : List.Forall₂ (ForecastOn v w r base token zone) horizons outs)
    (now : Timestamp) : List.Forall₂
      (fun horizon out => Agree out (base.bind fun s => uncached v.setup r zone horizon s now)) horizons outs :=
  each.imp fun _ _ forecast => forecast_on_agree reachable distinct founds forecast now

theorem trend_on_each (reachable : Reachable v first w) (distinct : w.ledger.Distinct) {horizons : List Nat}
    {t : Transcript} {out : Outcome (List Prediction)} {outs : List (Outcome Prediction)}
    (answered : w.Answered (.trend zone horizons { snapshot := some token }) t out)
    (inTime : out ≠ fail (.timedOut v.setup.settings.requestTimeout))
    (rests : v.Rests zone { snapshot := some token } t r base) (given : horizons ≠ [] ∨ ∃ s, base = .ok s)
    (each : List.Forall₂ (ForecastOn v w r base token zone) horizons outs) :
    AgreeAll out (outs.mapM fun out => out) := by
  obtain ⟨r', base', rests', founds, same⟩ :=
    series_transparent distinct (trend_concludes reachable answered) inTime
  obtain ⟨rfl, rfl⟩ := rests_once rests rests'
  have now : Timestamp := ⟨0, 0⟩
  have agree := each_on reachable distinct founds each now
  cases base with
  | ok s => exact agree_all_trans (same now) (series_of_each agree)
  | error halt =>
      have refused : out = .error halt := agree_all_error_iff.mp (same now)
      cases agree with
      | nil =>
          rcases given with some | ⟨s, ok⟩
          · exact absurd rfl some
          · cases ok
      | @cons horizon one _ others here _ =>
          rw [refused, agree_error_iff.mp here]
          rfl

theorem status_on (reachable : Reachable v first w) (distinct : w.ledger.Distinct) {t : Transcript}
    {status : ZoneStatus} {p : Prediction} {out : Outcome Prediction}
    (answered : w.Answered (.status zone) t (.ok status)) (current : status.current = some p)
    (rests : v.Rests zone {} t r base)
    (forecast : ForecastOn v w r base p.token zone v.setup.settings.statusHorizon out) : Agree out (.ok p) := by
  obtain ⟨r', s, rests', founds, answers⟩ := status_ok reachable answered current
  obtain ⟨rfl, rfl⟩ := rests_once rests rests'
  have token : p.token = s.token := made_token (answers.made p rfl)
  have pinned : w.ledger.Founds v zone { snapshot := some p.token } r (.ok s) := by
    refine ⟨founds.served, fun _ => .got s ⟨founds_known founds, ?_⟩, fun missing => ?_⟩
    · intro name plain
      cases plain
      exact token.symm
    · rw [founds_there founds] at missing
      cases missing
  have now : Timestamp := ⟨0, 0⟩
  have fresh := forecast_on_agree reachable distinct pinned forecast now
  exact agree_trans fresh (agree_symm (answers.same distinct (by simp) now))

/-- By whatever way a forecast is asked for, it is the same, as long as the ways rest on one registry and the token is
resolved, and accepted, for each of them or for none. A trend lists the forecasts of its horizons, or fails as the first
of them that fails; a trend without horizons is empty where there is a snapshot. -/
theorem endpoints_agree (reachable : Reachable v first w) (counted : w.Counted first) (separate : w.Separate) :
    (∀ zone horizons token t out r base, w.Answered (.trend zone horizons { snapshot := some token }) t out →
      out ≠ fail (.timedOut v.setup.settings.requestTimeout) →
      v.Rests zone { snapshot := some token } t r base → (horizons ≠ [] ∨ ∃ s, base = .ok s) →
      ∀ outs, List.Forall₂ (ForecastOn v w r base token zone) horizons outs →
        AgreeAll out (outs.mapM fun out => out)) ∧
    (∀ zone t status p r base, w.Answered (.status zone) t (.ok status) → status.current = some p →
      v.Rests zone {} t r base →
      ∀ out, ForecastOn v w r base p.token zone v.setup.settings.statusHorizon out → Agree out (.ok p)) ∧
    (∀ zone horizon token r base get post single response response' response'',
      Web.GetsPoint get zone horizon token → Web.PostsPoint post zone horizon token →
      Web.GetsSingle single zone horizon token → WebOn v w r base token zone get response →
      WebOn v w r base token zone post response' → WebOn v w r base token zone single response'' →
      ∃ one two three, response = Web.respond Prediction.toJson one ∧ response' = Web.respond Prediction.toJson two ∧
        response'' = Web.respond (Web.trendJson zone) three ∧ Agree one two ∧
        AgreeAll three (one.map fun p => [p])) := by
  have distinct := reachable_distinct reachable counted separate
  refine ⟨?_, ?_, ?_⟩
  · intro zone horizons token t out r base answered inTime rests given outs each
    exact trend_on_each reachable distinct answered inTime rests given each
  · intro zone t status p r base answered current rests out forecast
    exact status_on reachable distinct answered current rests forecast
  · intro zone horizon token r base get post single response response' response'' gets posts gets' on on' on''
    have now : Timestamp := ⟨0, 0⟩
    obtain ⟨one, base₁, first, founds₁, footing₁, same₁⟩ :=
      web_point reachable distinct on (Web.gets_point_program gets)
    obtain ⟨two, base₂, second, founds₂, footing₂, same₂⟩ :=
      web_point reachable distinct on' (Web.posts_point_program posts)
    obtain ⟨three, base₃, third, founds₃, footing₃, same₃⟩ := web_single reachable distinct on'' gets'
    have across := same_footing_trans (same_footing_symm footing₁) footing₂
    have along := same_footing_trans (same_footing_symm footing₁) footing₃
    have points : Agree one two := agree_trans (same₁ now)
      (agree_trans (footing_agree distinct founds₁ founds₂ across horizon now) (agree_symm (same₂ now)))
    have list : AgreeAll three (one.map fun p => [p]) :=
      agree_all_trans (same₃ now) (single_on_footing distinct founds₁ founds₃ along (same₁ now))
    exact ⟨one, two, three, first, second, third, points, list⟩

end

namespace Sample

theorem accepts_ok {α : Type} {encode : α → Json} {out : Outcome α}
    (accepted : accepts (Web.respond encode out) = true) : ∃ value, out = .ok value := by
  match out with
  | .ok value => exact ⟨value, rfl⟩
  | .error (.failed f) => cases f <;> cases accepted
  | .error .pastCalendar => cases accepted
  | .error .outOfTime => cases accepted

-- Whatever the program behind it, a web request that was accepted rests on the one registry and on a snapshot.
theorem served_web {α : Type} {encode : α → Json} {inner : Serve (Outcome α)}
    {right : Registry → NamedSnapshot → Outcome α → Prop} {q : Web.Request} {r : Registry}
    (only : ∀ r' ∈ served.history.published, r' = r) (asked : served.answers (.web q) accepts = true)
    (program : Web.Api.answer service q = inner >>= fun outcome => pure (Web.respond encode outcome))
    (met : Meets (served.ledger.conduct service.setup)
      (fun t out => served.ledger.Concludes service "LA_METRO" pinned right t out) inner []) (s : NamedSnapshot) :
    ∃ response, WebOn service served r (.ok s) token "LA_METRO" q response := by
  obtain ⟨t, response, answered, accepted⟩ := answers_answered asked
  obtain ⟨out, rfl, concludes⟩ := web_concludes served_reachable answered program met
  obtain ⟨value, rfl⟩ := accepts_ok accepted
  obtain ⟨r', s', rests, founds, _⟩ := concludes_ok concludes
  have on := rests_on rests founds
  obtain rfl := only r' on.served
  refine ⟨_, ?_, t, .ok s', answered, rests, .given s s'⟩
  intro late
  rw [late] at accepted
  cases accepted

theorem gets_served : Web.GetsPoint get "LA_METRO" 24 token := by
  obtain ⟨⟨_, _, _, _, ⟨route, _, _, text⟩, query, _⟩, _⟩ := evaluated
  exact ⟨rfl, ⟨"LA_METRO", route, text⟩, query⟩

theorem posts_served : Web.PostsPoint post "LA_METRO" 24 token := by
  obtain ⟨⟨_, _, _, _, ⟨_, route, _, text⟩, _, body, _⟩, _⟩ := evaluated
  exact ⟨rfl, ⟨"LA_METRO", route, text⟩, body⟩

theorem gets_single_served : Web.GetsSingle getSingle "LA_METRO" 24 token := by
  obtain ⟨⟨_, _, _, _, ⟨_, _, route, text⟩, _, _, query, list⟩, _⟩ := evaluated
  exact ⟨rfl, ⟨"LA_METRO", route, text⟩, "24", query, list⟩

theorem served_forecast {r : Registry} (only : ∀ r' ∈ served.history.published, r' = r) {horizon : Nat}
    (answers : served.answers (.predict "LA_METRO" horizon pinned) Except.toBool = true) (s : NamedSnapshot) :
    ∃ p, ForecastOn service served r (.ok s) token "LA_METRO" horizon (.ok p) := by
  obtain ⟨t, p, r', s', answered, on⟩ := served_points answers
  obtain rfl := only r' on.served
  exact ⟨p, by nofun, t, .ok s', answered, on.rests, .given s s'⟩

theorem footed {r : Registry} {s s' : NamedSnapshot} {named : Token} {horizon : Nat} {out : Outcome Prediction}
    (forecast : ForecastOn service served r (.ok s') named "LA_METRO" horizon out) :
    ForecastOn service served r (.ok s) named "LA_METRO" horizon out := by
  obtain ⟨inTime, t, base, answered, rests, footing⟩ := forecast
  exact ⟨inTime, t, base, answered, rests, same_footing_trans (.given s s') footing⟩

theorem served_alike : ∃ (r : Registry) (s : NamedSnapshot),
    (∃ t ps p p', served.Answered (.trend "LA_METRO" [24, 1] pinned) t (.ok ps) ∧
      ForecastOn service served r (.ok s) token "LA_METRO" 24 (.ok p) ∧
      ForecastOn service served r (.ok s) token "LA_METRO" 1 (.ok p') ∧ AgreeAll (.ok ps) (.ok [p, p'])) ∧
    (∃ t status p q, served.Answered (.status "LA_METRO") t (.ok status) ∧ status.current = some p ∧
      ForecastOn service served r (.ok s) p.token "LA_METRO" service.setup.settings.statusHorizon (.ok q) ∧
      Agree (.ok q) (.ok p)) ∧
    (∃ one two three, WebOn service served r (.ok s) token "LA_METRO" get (Web.respond Prediction.toJson one) ∧
      WebOn service served r (.ok s) token "LA_METRO" post (Web.respond Prediction.toJson two) ∧
      WebOn service served r (.ok s) token "LA_METRO" getSingle (Web.respond (Web.trendJson "LA_METRO") three) ∧
      Agree one two ∧ AgreeAll three (one.map fun p => [p])) := by
  obtain ⟨r, only⟩ := served_once
  obtain ⟨⟨⟨_, _, metro, soon⟩, _, ⟨asked, sent, listed⟩, _⟩, _⟩ := evaluated
  obtain ⟨series, state, web⟩ := endpoints_agree served_reachable served_counted served_separate
  obtain ⟨t, ps, r', s, answered, on⟩ := served_series
  obtain rfl := only r' on.served
  refine ⟨r', s, ?_, ?_, ?_⟩
  · obtain ⟨p, first⟩ := served_forecast only metro s
    obtain ⟨p', second⟩ := served_forecast only soon s
    have same := series "LA_METRO" [24, 1] token t (.ok ps) r' (.ok s) answered (by nofun) on.rests (.inr ⟨s, rfl⟩) _
      (.cons first (.cons second .nil))
    exact ⟨t, ps, p, p', answered, first, second, same⟩
  · obtain ⟨u, status, p, r, s', shown, current, named, under⟩ := served_status
    obtain rfl := only r under.served
    obtain ⟨q, forecast⟩ := served_forecast only soon s'
    have hour : service.setup.settings.statusHorizon = 1 := by rw [served_setup]
    rw [← named, ← hour] at forecast
    have same := state "LA_METRO" u status p r (.ok s') shown current under.rests (.ok q) forecast
    exact ⟨u, status, p, q, shown, current, footed forecast, same⟩
  · have flat := reachable_flat served_reachable
    obtain ⟨response, on⟩ :=
      served_web only asked (Web.gets_point_program gets_served) (meets_predict flat 24) s
    obtain ⟨response', on'⟩ :=
      served_web only sent (Web.posts_point_program posts_served) (meets_predict flat 24) s
    obtain ⟨response'', on''⟩ :=
      served_web only listed (Web.gets_single_program gets_single_served) (meets_trend flat [24]) s
    obtain ⟨one, two, three, rfl, rfl, rfl, points, list⟩ :=
      web "LA_METRO" 24 token r' (.ok s) get post getSingle response response' response'' gets_served posts_served
        gets_single_served on on' on''
    exact ⟨one, two, three, on, on', on'', points, list⟩

-- A trend without horizons is not the list of no forecasts where the snapshot is known but too old: it fails as any
-- forecast does.
theorem empty_trend_refused : ∃ t out, Reachable (running strict nextDay).service (registry 1) refused ∧
    refused.Counted (registry 1) ∧ refused.Separate ∧
    isKnown (running strict nextDay).service.setup.catalog (registry 1) "SCE" = true ∧
    (∃ kept, refused.engine.captures.pinned? token = some kept ∧
      refused.engine.captures.isExpired refused.engine.now kept = false) ∧
    refused.Answered (.trend "SCE" [] pinned) t out ∧
    out ≠ fail (.timedOut (running strict nextDay).service.setup.settings.requestTimeout) ∧
    ¬ AgreeAll out (([] : List (Outcome Prediction)).mapM fun out => out) := by
  obtain ⟨_, ⟨stale, none, same, known, kept⟩, _, _, _, valid⟩ := evaluated
  have reachable : Reachable (running strict nextDay).service (registry 1) refused := by
    unfold refused
    exact played_reachable valid nextDay _
  have counted : refused.Counted (registry 1) := by
    rw [World.Counted, none]
    decide
  have listed : isKnown (running strict nextDay).service.setup.catalog (registry 1) "SCE" = true := by
    rw [running_setup valid]
    exact known
  obtain ⟨t, out, answered, old⟩ := answers_answered stale
  obtain ⟨held, pinned, current⟩ := (Option.any_eq_true _ _).mp kept
  refine ⟨t, out, reachable, counted, separate_once same, listed, ⟨held, pinned, by simpa using current⟩, answered, ?_, ?_⟩
  · intro late
    rw [late] at old
    cases old
  · cases out with
    | ok ps => cases old
    | error halt =>
        intro same
        cases same

end Sample

end GridLoad
