import GridLoad.Proofs.Program.Questions
import GridLoad.Proofs.Serving.World

/-!
Which operation of the service a request comes to, whether it is put directly or on the web. A request on the web that is
refused, or that asks for what is there to be read, comes to none. Forecasts and trends begin alike: a registry and a
snapshot are taken, and what is to be looked up is looked up for these.
-/

set_option autoImplicit false

namespace GridLoad

open Program hiding bind_assoc

-- Takes the registry and the snapshot, or ends with the failure that takes their place.
def Service.basis (v : Service) (zone : String) (o : Options) : Serve (Registry × Outcome NamedSnapshot) := do
  let r ← act .registry
  if !isKnown v.setup.catalog r zone then pure (r, fail (.noModel zone))
  else do
    let base ← snapshotFor v.setup v.sourceName zone o
    pure (r, base)

-- A request with a basis: what follows is asked only where there is a snapshot.
def Service.onBasis {α : Type} (v : Service) (zone : String) (o : Options)
    (further : Registry → NamedSnapshot → Serve (Outcome α)) : Serve (Outcome α) := do
  let both ← v.basis zone o
  match both.2 with
  | .error halt => pure (.error halt)
  | .ok s => further both.1 s

section

variable {v : Service}

theorem predict_on_basis (zone : String) (horizon : Nat) (o : Options) :
    v.predict zone horizon o = bounded v.setup "predict" (v.onBasis zone o fun r s => do
      match ← resolve v.setup r zone horizon s with
      | .error halt => pure (.error halt)
      | .ok c => do
          act (.note (served "predict" c))
          pure (.ok c.prediction)) := by
  simp only [Service.predict, Service.onBasis, Service.basis, bind_assoc]
  congr 2
  funext r
  split
  · rfl
  · rw [bind_assoc]
    exact bind_congr fun base => by cases base <;> rfl

theorem trend_on_basis (zone : String) (horizons : List Nat) (o : Options) :
    v.trend zone horizons o = bounded v.setup "trend" (v.onBasis zone o fun r s =>
      Service.series v.setup r zone s horizons) := by
  simp only [Service.trend, Service.onBasis, Service.basis, bind_assoc]
  congr 2
  funext r
  split
  · rfl
  · rw [bind_assoc]
    exact bind_congr fun base => by cases base <;> rfl

end

inductive Operation where
  | predict (zone : String) (horizon : Nat) (options : Options)
  | trend (zone : String) (horizons : List Nat) (options : Options)
  | status (zone : String)
  | reload

namespace Operation

abbrev Answer : Operation → Type
  | .predict .. => Outcome Prediction
  | .trend .. => Outcome (List Prediction)
  | .status _ => Outcome ZoneStatus
  | .reload => Outcome ReloadReport

def program (v : Service) : (op : Operation) → Serve op.Answer
  | .predict zone horizon options => v.predict zone horizon options
  | .trend zone horizons options => v.trend zone horizons options
  | .status zone => v.status zone
  | .reload => Service.reload

-- The zone that is asked for, and the snapshot that is to be used.
def point? : Operation → Option (String × Options)
  | .predict zone _ options => some (zone, options)
  | .trend zone _ options => some (zone, options)
  | .status zone => some (zone, {})
  | .reload => none

end Operation

namespace Web

def Route.operation? (q : Request) : Route → Option Operation
  | .predict segment => do
      let zone ← segmentText? segment
      if q.method = .post then
        let wanted ← Wanted.ofBody? q.contentType q.body
        some (.predict zone wanted.horizon wanted.options)
      else
        match ← pointQuery? q.query with
        | (none, _) => none
        | (some horizon, snapshot) => some (.predict zone horizon { snapshot := snapshot })
  | .trend segment => do
      let zone ← segmentText? segment
      let (text, snapshot) ← trendQuery? q.query
      match horizonsOfText text with
      | .error _ => none
      | .ok horizons => some (.trend zone horizons { snapshot := snapshot })
  | .status segment => (segmentText? segment).map .status
  | .reload => some .reload
  | .zones | .health | .readiness | .metrics => none

def Request.operation? (q : Request) : Option Operation := do
  let route ← Route.ofPath? q.path
  if route.allows q.method then route.operation? q else none

end Web

def Ask.operation? : Ask → Option Operation
  | .predict zone horizon options => some (.predict zone horizon options)
  | .trend zone horizons options => some (.trend zone horizons options)
  | .status zone => some (.status zone)
  | .reload => some .reload
  | .web q => q.operation?
  | .zones | .purge => none

-- What a request asks for that comes to no operation.
def Question.Aside : Question → Prop
  | .act .registry => True
  | .act .health => True
  | .act .series => True
  | .act .purgeCache => True
  | .act .pinCount => True
  | .act .dropPins => True
  | _ => False

-- A program is an operation, of whose outcome it makes its answer, or it is none.
inductive Carries (v : Service) {α : Type} (p : Serve α) : Option Operation → Prop
  | out (op : Operation) (f : op.Answer → α) (same : p = op.program v >>= fun out => pure (f out)) :
      Carries v p (some op)
  | nothing (aside : Asks Question.Aside p) : Carries v p none

section

variable {v : Service} {α β : Type} {op? : Option Operation} {allowed : Question → Prop}

theorem asks_act {a : Act} {f : a.Answer → Serve α} (kind : allowed (.act a))
    (further : ∀ answer, Asks allowed (f answer)) : Asks allowed (act a >>= f) := asks_first kind further

theorem asks_wait {w : Wait} {f : Option w.Answer → Serve α} (kind : allowed (.wait w))
    (further : ∀ answer, Asks allowed (f answer)) : Asks allowed (wait w >>= f) := asks_first kind further

theorem carries_then {p : Serve α} (carries : Carries v p op?) (f : α → β) :
    Carries v (p >>= fun out => pure (f out)) op? := by
  cases carries with
  | out op g same =>
      refine .out op (fun out => f (g out)) ?_
      simp only [same, bind_assoc, pure_bind]
  | nothing aside => exact .nothing (asks_bind aside fun _ => asks_pure _)

theorem carries_with_zone {segment : String} {further : String → Serve (Outcome Web.Response)}
    {next? : String → Option Operation} (each : ∀ zone, Carries v (further zone) (next? zone)) :
    Carries v (Web.withZone segment further) ((Web.segmentText? segment).bind next?) := by
  unfold Web.withZone
  cases Web.segmentText? segment with
  | none => exact .nothing (asks_pure _)
  | some zone => exact each zone

theorem carries_route (route : Web.Route) (q : Web.Request) :
    Carries v (Web.Api.serve v route q) (route.operation? q) := by
  cases route with
  | zones => exact .nothing (asks_act trivial fun _ => asks_act trivial fun _ => asks_pure _)
  | predict segment =>
      refine carries_with_zone fun zone => ?_
      by_cases posted : q.method = .post
      · rw [if_pos posted, if_pos posted, Web.Api.predictBody]
        cases Web.Wanted.ofBody? q.contentType q.body with
        | none => exact .nothing (asks_pure _)
        | some wanted => exact .out (.predict zone wanted.horizon wanted.options) _ rfl
      · rw [if_neg posted, if_neg posted, Web.Api.predictQuery]
        rcases Web.pointQuery? q.query with _ | ⟨_ | horizon, snapshot⟩
        · exact .nothing (asks_pure _)
        · exact .nothing (asks_pure _)
        · exact .out (.predict zone horizon { snapshot := snapshot }) _ rfl
  | trend segment =>
      refine carries_with_zone fun zone => ?_
      rw [Web.Api.trend]
      rcases Web.trendQuery? q.query with _ | ⟨text, snapshot⟩
      · exact .nothing (asks_pure _)
      · dsimp only [Option.bind_eq_bind, Option.bind_some]
        cases Web.horizonsOfText text with
        | error message => exact .nothing (asks_pure _)
        | ok horizons => exact .out (.trend zone horizons { snapshot := snapshot }) _ rfl
  | status segment =>
      rw [Web.Route.operation?, Option.map_eq_bind]
      exact carries_with_zone fun zone => .out (.status zone) _ rfl
  | reload => exact .out .reload _ rfl
  | health => exact .nothing (asks_act trivial fun _ => asks_pure _)
  | readiness => exact .nothing (asks_act trivial fun _ => asks_pure _)
  | metrics => exact .nothing (asks_act trivial fun _ => asks_pure _)

theorem carries_web (q : Web.Request) : Carries v (Web.Api.answer v q) q.operation? := by
  unfold Web.Api.answer Web.Request.operation?
  cases Web.Route.ofPath? q.path with
  | none => exact .nothing (asks_pure _)
  | some route =>
      dsimp only [Option.bind_eq_bind, Option.bind_some]
      cases allowed : route.allows q.method with
      | false => exact .nothing (asks_pure _)
      | true => exact carries_then (carries_route route q) _

theorem carries_ask (v : Service) (ask : Ask) : Carries v (ask.program v) ask.operation? := by
  have itself : ∀ op : Operation, Carries v (op.program v) (some op) := fun op => .out op id (by simp)
  cases ask with
  | predict zone horizon options => exact itself (.predict zone horizon options)
  | trend zone horizons options => exact itself (.trend zone horizons options)
  | status zone => exact itself (.status zone)
  | reload => exact itself .reload
  | zones => exact .nothing (asks_act trivial fun _ => asks_pure _)
  | purge =>
      exact .nothing (asks_act trivial fun _ => asks_act trivial fun _ => asks_act trivial fun _ =>
        asks_act trivial fun _ => asks_pure _)
  | web q => exact carries_web q

-- What every operation keeps to, and whatever else a request may ask for, every request keeps to.
theorem ask_meets {c : Conduct Question.Answer} {kept : Transcript → Prop} (ask : Ask)
    (each : ∀ op : Operation, Meets c (fun u _ => kept u) (op.program v) [])
    (put : ∀ t (q : Question), kept t → q.Aside → c.guarantee t q)
    (stays : ∀ t (q : Question) (answer : q.Answer), kept t → q.Aside → kept (t ++ [⟨q, answer⟩])) (first : kept []) :
    Meets c (fun u _ => kept u) (ask.program v) [] := by
  have carries := carries_ask v ask
  generalize ask.operation? = op? at carries
  cases carries with
  | nothing aside => exact asks_meets kept aside put stays first
  | out op f same =>
      rw [same]
      exact meets_bind (each op) fun _ _ holds => holds

end

end GridLoad
