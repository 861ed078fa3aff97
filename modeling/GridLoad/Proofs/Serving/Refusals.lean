import GridLoad.Proofs.Serving.Schedule

/-!
What a web request is told where it gets nothing: the failure of the service, written out, or that the request does not
have the form of one. A query that cannot be read at all is answered in plain text.
-/

set_option autoImplicit false

namespace GridLoad

open Program

namespace Web

-- A content that tells why there is no answer, and in which constituent the reason lies if it lies in one.
def Response.Tells (response : Response) (code message : String) (constituent : Option String) : Prop :=
  response.content = .document (.record ([("error", .str code), ("message", .str message)] ++
    (constituent.map fun zone => ("constituent", Json.str zone)).toList))

theorem failure_tells (f : Failure) : f.response.Tells f.kind f.message f.failedConstituent := by
  unfold Response.Tells Failure.response
  cases f.failedConstituent <;> rfl

theorem refused_tells (code message : String) : (Response.refused code message).Tells code message none := rfl

namespace Request

-- The path leads to this place, for a zone that is a text.
def At (q : Request) (place : String → Route) (zone : String) : Prop :=
  ∃ segment, Route.ofPath? q.path = some (place segment) ∧ segmentText? segment = some zone

-- A request by a method that its place answers to.
inductive Addressed (q : Request) : Prop
  | queried (zone : String) (method : q.method = .get) (place : q.At .predict zone)
  | posted (zone : String) (method : q.method = .post) (place : q.At .predict zone)
  | listed (zone : String) (method : q.method = .get) (place : q.At .trend zone)
  | described (zone : String) (method : q.method = .get) (place : q.At .status zone)
  | reloaded (method : q.method = .post) (place : Route.ofPath? q.path = some .reload)

-- What a request that has a form asks of the service, and how the value is written out.
inductive Asks (v : Service) (q : Request) : (α : Type) → (α → Json) → Serve (Outcome α) → Prop
  | queried {zone : String} {horizon : Nat} {snapshot : Option String} (method : q.method = .get)
      (place : q.At .predict zone) (query : pointQuery? q.query = some (some horizon, snapshot)) :
      Asks v q Prediction Prediction.toJson (v.predict zone horizon { snapshot := snapshot })
  | posted {zone : String} {wanted : Wanted} (method : q.method = .post) (place : q.At .predict zone)
      (body : Wanted.ofBody? q.contentType q.body = some wanted) :
      Asks v q Prediction Prediction.toJson (v.predict zone wanted.horizon wanted.options)
  | listed {zone text : String} {horizons : List Nat} {snapshot : Option String} (method : q.method = .get)
      (place : q.At .trend zone) (query : trendQuery? q.query = some (text, snapshot))
      (list : horizonsOfText text = .ok horizons) :
      Asks v q (List Prediction) (trendJson zone) (v.trend zone horizons { snapshot := snapshot })
  | described {zone : String} (method : q.method = .get) (place : q.At .status zone) :
      Asks v q ZoneStatus ZoneStatus.toJson (v.status zone)
  | reloaded (method : q.method = .post) (place : Route.ofPath? q.path = some .reload) :
      Asks v q ReloadReport ReloadReport.toJson Service.reload

-- A request without the form of one: without a horizon, with a list that is none, or with a body that is not read.
inductive Misshapen (q : Request) : String → String → Prop
  | queried {zone : String} {snapshot : Option String} (method : q.method = .get) (place : q.At .predict zone)
      (query : pointQuery? q.query = some (none, snapshot)) :
      Misshapen q "missing_horizon" "query parameter \x60horizon\x60 is required"
  | posted {zone : String} (method : q.method = .post) (place : q.At .predict zone)
      (body : Wanted.ofBody? q.contentType q.body = none) : Misshapen q "invalid_body" unreadable
  | listed {zone text message : String} {snapshot : Option String} (method : q.method = .get)
      (place : q.At .trend zone) (query : trendQuery? q.query = some (text, snapshot))
      (list : horizonsOfText text = .error message) : Misshapen q "invalid_horizons" message

-- A query that says nothing: a horizon that is no number, no list, or a name given twice.
inductive Unread (q : Request) : Prop
  | queried {zone : String} (method : q.method = .get) (place : q.At .predict zone)
      (query : pointQuery? q.query = none)
  | listed {zone : String} (method : q.method = .get) (place : q.At .trend zone) (query : trendQuery? q.query = none)

variable {v : Service} {q : Request}

theorem addressed_cases (addressed : q.Addressed) :
    (∃ α encode inner, q.Asks v α encode inner) ∨ (∃ code message, q.Misshapen code message) ∨ q.Unread := by
  cases addressed with
  | queried zone method place =>
      match query : pointQuery? q.query with
      | none => exact .inr (.inr (.queried method place query))
      | some (none, _) => exact .inr (.inl ⟨_, _, .queried method place query⟩)
      | some (some _, _) => exact .inl ⟨_, _, _, .queried method place query⟩
  | posted zone method place =>
      cases body : Wanted.ofBody? q.contentType q.body with
      | none => exact .inr (.inl ⟨_, _, .posted method place body⟩)
      | some wanted => exact .inl ⟨_, _, _, .posted method place body⟩
  | listed zone method place =>
      match query : trendQuery? q.query with
      | none => exact .inr (.inr (.listed method place query))
      | some (text, _) =>
          cases list : horizonsOfText text with
          | error message => exact .inr (.inl ⟨_, _, .listed method place query list⟩)
          | ok horizons => exact .inl ⟨_, _, _, .listed method place query list⟩
  | described zone method place => exact .inl ⟨_, _, _, .described method place⟩
  | reloaded method place => exact .inl ⟨_, _, _, .reloaded method place⟩

theorem answer_point {zone : String} (method : q.method = .get) (place : q.At .predict zone) :
    Api.answer v q = Api.predictQuery v q.query zone := by
  obtain ⟨segment, route, text⟩ := place
  simp [Api.answer, route, Route.allows, Api.serve, withZone, text, method]

theorem answer_body {zone : String} (method : q.method = .post) (place : q.At .predict zone) :
    Api.answer v q = Api.predictBody v q zone := by
  obtain ⟨segment, route, text⟩ := place
  simp [Api.answer, route, Route.allows, Api.serve, withZone, text, method]

theorem answer_list {zone : String} (method : q.method = .get) (place : q.At .trend zone) :
    Api.answer v q = Api.trend v q.query zone := by
  obtain ⟨segment, route, text⟩ := place
  simp [Api.answer, route, Route.allows, Api.serve, withZone, text, method]

theorem asks_program {α : Type} {encode : α → Json} {inner : Serve (Outcome α)} (asks : q.Asks v α encode inner) :
    Api.answer v q = inner >>= fun outcome => pure (respond encode outcome) := by
  cases asks with
  | queried method place query => rw [answer_point method place, Api.predictQuery, query]
  | posted method place body => rw [answer_body method place, Api.predictBody, body]
  | listed method place query list =>
      rw [answer_list method place, Api.trend, query]
      simp only [list]
  | described method place =>
      obtain ⟨segment, route, text⟩ := place
      simp [Api.answer, route, Route.allows, Api.serve, withZone, text, method]
  | reloaded method place => simp [Api.answer, place, Route.allows, Api.serve, method]

theorem misshapen_program {code message : String} (misshapen : q.Misshapen code message) :
    Api.answer v q = pure (.ok (.refused code message)) := by
  cases misshapen with
  | queried method place query => rw [answer_point method place, Api.predictQuery, query]
  | posted method place body => rw [answer_body method place, Api.predictBody, body]
  | listed method place query list =>
      rw [answer_list method place, Api.trend, query]
      simp only [list]

theorem unread_program (unread : q.Unread) :
    Api.answer v q = pure (.ok (.unreadable "the query cannot be read")) := by
  cases unread with
  | queried method place query => rw [answer_point method place, Api.predictQuery, query]
  | listed method place query => rw [answer_list method place, Api.trend, query]

end Request

-- What is asked for without its content is what would be asked for with it.
theorem answer_head {v : Service} {q : Request} (method : q.method = .head) :
    Api.answer v q = Api.answer v { q with method := .get } >>= fun outcome =>
      pure (outcome.map fun response => .empty response.status) := by
  have path : Request.path { q with method := .get } = q.path := rfl
  unfold Api.answer
  rw [path]
  cases Route.ofPath? q.path with
  | none => rfl
  | some route =>
      cases route with
      | reload => simp [Route.allows, method, Except.map, Response.empty]
      | _ => simp [Route.allows, method, Api.serve, Request.query, Request.address]

theorem respond_response {α : Type} {encode : α → Json} {out : Outcome α} {response : Response}
    (responds : respond encode out = .ok response) :
    (∃ value, out = .ok value ∧ response = .ok (encode value)) ∨ ∃ f, out = fail f ∧ response = f.response := by
  match out with
  | .ok value =>
      cases responds
      exact .inl ⟨value, rfl, rfl⟩
  | .error (.failed f) =>
      cases responds
      exact .inr ⟨f, rfl, rfl⟩
  | .error .pastCalendar => cases responds
  | .error .outOfTime => cases responds

end Web

-- The service came to a value for a web request, and wrote it out.
def GivesBack (v : Service) (q : Web.Request) (t : Transcript) (j : Json) : Prop :=
  ∃ α encode inner value, q.Asks v α encode inner ∧ Leads inner t (.done (.ok value)) ∧ j = encode value

-- The service failed a web request that had the form of one.
def FailsWith (v : Service) (q : Web.Request) (t : Transcript) (f : Failure) : Prop :=
  ∃ α encode inner, q.Asks v α encode inner ∧ Leads inner t (.done (fail f))

section

variable {v : Service} {first : Registry} {w : World} {q : Web.Request} {t : Transcript} {response : Web.Response}

theorem leads_pure {program : Serve (Outcome Web.Response)} {told : Web.Response} (pure : program = pure (.ok told))
    (leads : Leads program t (.done (.ok response))) : t = [] ∧ response = told := by
  rw [pure] at leads
  obtain ⟨silent, same⟩ := leads_done leads
  cases same
  exact ⟨silent, rfl⟩

theorem asks_answered {α : Type} {encode : α → Json} {inner : Serve (Outcome α)} (asks : q.Asks v α encode inner)
    (leads : Leads (Web.Api.answer v q) t (.done (.ok response))) :
    (∃ value, Leads inner t (.done (.ok value)) ∧ response = .ok (encode value)) ∨
      ∃ f, Leads inner t (.done (fail f)) ∧ response = f.response := by
  rw [Web.Request.asks_program asks] at leads
  obtain ⟨own, more, out, rfl, within, responds⟩ := leads_bind leads
  obtain ⟨rfl, same⟩ := leads_done responds
  rw [List.append_nil]
  simp only [Program.done.injEq] at same
  rcases Web.respond_response same.symm with ⟨value, rfl, rfl⟩ | ⟨f, rfl, rfl⟩
  · exact .inl ⟨value, within, rfl⟩
  · exact .inr ⟨f, within, rfl⟩

/-- Whatever a request to the service is refused for, it is told in the same way, as long as its query can be read: if
the service fails, then the kind of the failure, its message and its constituent, under the status that belongs to it;
if the request does not have the form of one, then a code and a message, before anything is asked. Without its content a
request has the status that it has with it. -/
theorem refusals_alike (v : Service) :
    (∀ first w, Reachable v first w → ∀ q : Web.Request, q.Addressed → ∀ t response,
      w.Answered (.web q) t (.ok response) →
      (∃ j, GivesBack v q t j ∧ response = .ok j) ∨
      (∃ f, FailsWith v q t f ∧ response.status = f.status ∧ response.Tells f.kind f.message f.failedConstituent) ∨
      (∃ code message, q.Misshapen code message ∧ t = [] ∧ response.status = 400 ∧
        response.Tells code message none) ∨
      (q.Unread ∧ t = [] ∧ response.status = 400)) ∧
    (∀ (q : Web.Request) code message, q.Misshapen code message →
      Web.Api.answer v q = pure (.ok (.refused code message))) ∧
    ∀ q : Web.Request, q.method = .head →
      Web.Api.answer v q = Web.Api.answer v { q with method := .get } >>= fun outcome =>
        pure (outcome.map fun response => .empty response.status) := by
  refine ⟨?_, fun q code message => Web.Request.misshapen_program, fun q => Web.answer_head⟩
  intro first w reachable q addressed t response answered
  have leads : Leads (Web.Api.answer v q) t (.done (.ok response)) := answered_leads reachable answered
  rcases Web.Request.addressed_cases addressed with ⟨α, encode, inner, asks⟩ | ⟨code, message, misshapen⟩ | unread
  · rcases asks_answered asks leads with ⟨value, made, rfl⟩ | ⟨f, failed, rfl⟩
    · exact .inl ⟨encode value, ⟨α, encode, inner, value, asks, made, rfl⟩, rfl⟩
    · exact .inr (.inl ⟨f, ⟨α, encode, inner, asks, failed⟩, rfl, Web.failure_tells f⟩)
  · obtain ⟨silent, rfl⟩ := leads_pure (Web.Request.misshapen_program misshapen) leads
    exact .inr (.inr (.inl ⟨code, message, misshapen, silent, rfl, Web.refused_tells code message⟩))
  · obtain ⟨silent, rfl⟩ := leads_pure (Web.Request.unread_program unread) leads
    exact .inr (.inr (.inr ⟨unread, silent, rfl⟩))

end

namespace Sample

/-! Three requests that come to nothing: for a zone that is not there, for a list without horizons, and for a trend
without a list. -/

def toNowhere : Web.Request := { method := .get, target := "/v1/zones/NOWHERE/predict?horizon=24" }

def emptyList : Web.Request := { method := .get, target := "/v1/zones/SCE/trend?horizons=," }

def listless : Web.Request := { method := .get, target := "/v1/zones/SCE/trend" }

@[irreducible] def astray : World :=
  played {} morning (.arrive (.web toNowhere) :: List.replicate 4 (.go 0) ++
    [.arrive (.web emptyList), .arrive (.web listless)])

def hasStatus (status : Nat) : Outcome Web.Response → Bool
  | .ok response => response.status = status
  | .error _ => false

def isPlain : Outcome Web.Response → Bool
  | .ok ⟨status, .text _⟩ => status = 400
  | _ => false

theorem astray_evaluated :
    (astray.answers (.web toNowhere) (hasStatus 404) = true ∧ astray.answers (.web emptyList) (hasStatus 400) = true ∧
      astray.answers (.web listless) isPlain = true) ∧
    (Web.Route.ofPath? toNowhere.path = some (.predict "NOWHERE") ∧
      Web.segmentText? "NOWHERE" = some "NOWHERE" ∧
      Web.pointQuery? toNowhere.query = some (some 24, none)) ∧
    (Web.Route.ofPath? emptyList.path = some (.trend "SCE") ∧ Web.Route.ofPath? listless.path = some (.trend "SCE") ∧
      Web.segmentText? "SCE" = some "SCE" ∧ Web.trendQuery? emptyList.query = some (",", none) ∧
      Web.horizonsOfText "," = .error "at least one horizon is required") := by decide +kernel

theorem astray_reachable : Reachable service (registry 1) astray := by
  obtain ⟨_, _, _, _, valid, _⟩ := evaluated
  unfold astray
  exact played_reachable valid morning _

theorem nowhere_told :
    (∃ t response f, astray.Answered (.web toNowhere) t (.ok response) ∧ FailsWith service toNowhere t f ∧
      response.status = f.status ∧ response.Tells f.kind f.message f.failedConstituent) ∧
    Web.Api.answer service emptyList =
      pure (.ok (.refused "invalid_horizons" "at least one horizon is required")) := by
  obtain ⟨told, unformed, _⟩ := refusals_alike service
  obtain ⟨⟨missing, _⟩, ⟨route, text, _⟩, route', _, text', query', none⟩ := astray_evaluated
  constructor
  · obtain ⟨t, out, answered, status⟩ := answers_answered missing
    cases out with
    | error halt => cases status
    | ok response =>
        have status : response.status = 404 := of_decide_eq_true status
        have place : toNowhere.At .predict "NOWHERE" := ⟨"NOWHERE", route, text⟩
        rcases told _ _ astray_reachable _ (.queried _ rfl place) _ _ answered with
          ⟨j, _, rfl⟩ | ⟨f, fails⟩ | ⟨_, _, _, _, other, _⟩ | ⟨_, _, other⟩
        · cases status
        · exact ⟨t, response, f, answered, fails⟩
        · cases status.symm.trans other
        · cases status.symm.trans other
  · exact unformed _ _ _ (.listed rfl ⟨"SCE", route', text'⟩ query' none)

-- A request in the right place without the list of its horizons is told so in plain text.
theorem told_otherwise : ¬ ∀ w : World, Reachable service (registry 1) w → ∀ q : Web.Request, q.Addressed →
    ∀ t response, w.Answered (.web q) t (.ok response) → response.status ≠ 200 →
      ∃ code message constituent, response.Tells code message constituent := by
  intro told
  obtain ⟨⟨_, _, plain⟩, _, _, route, text, _⟩ := astray_evaluated
  obtain ⟨t, out, answered, isPlain⟩ := answers_answered plain
  match out with
  | .ok ⟨code, .text _⟩ =>
      have status : code = 400 := of_decide_eq_true isPlain
      have other : code ≠ 200 := by simp [status]
      obtain ⟨_, _, _, tells⟩ :=
        told astray astray_reachable listless (.listed "SCE" rfl ⟨"SCE", route, text⟩) t _ answered other
      cases tells

end Sample

end GridLoad
