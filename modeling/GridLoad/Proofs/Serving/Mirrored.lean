import GridLoad.Proofs.Cache.Unweighted
import GridLoad.Proofs.Json.Blanked
import GridLoad.Proofs.Serving.Questions

/-!
A service beside one whose catalog carries no weights: request by request the two put the same questions, as long as
they are answered alike, and come to the same but for the weights.
-/

set_option autoImplicit false

namespace GridLoad

open Program
open GridLoad.Time (Timestamp)

-- A question that brings a forecast to the cache, or gets one from there.
def Question.OfContent : Question → Prop
  | .act (.leave _ _) => True
  | .wait (.enter _) => True
  | _ => False

def Question.Plain (q : Question) : Prop := ¬ q.OfContent

def Entered.unweighted : Entered → Entered
  | .found p => .found p.unweighted
  | .granted => .granted

-- Two programs that put the same questions and, answered alike, end alike; `shed` tells what counts of their values.
inductive Mirrors {α β : Type} (shed : α → β) : Serve α → Serve α → Prop
  | done {a b : α} (same : shed a = shed b) : Mirrors shed (.done a) (.done b)
  | ask {q : Question} {next next' : q.Answer → Serve α} (plain : q.Plain)
      (further : ∀ answer, Mirrors shed (next answer) (next' answer)) : Mirrors shed (.ask q next) (.ask q next')
  | enter {slot : SlotId} {next next' : Option Entered → Serve α}
      (further : ∀ a b, a.map Entered.unweighted = b.map Entered.unweighted → Mirrors shed (next a) (next' b)) :
      Mirrors shed (.ask (.wait (.enter slot)) next) (.ask (.wait (.enter slot)) next')
  | leave {slot : SlotId} {computed computed' : Option Prediction} {next next' : Unit → Serve α}
      (same : computed.map Prediction.unweighted = computed'.map Prediction.unweighted)
      (further : Mirrors shed (next ()) (next' ())) :
      Mirrors shed (.ask (.act (.leave slot computed)) next) (.ask (.act (.leave slot computed')) next')

section

variable {α β γ δ : Type} {shed : α → β} {shed' : γ → δ}

theorem mirrors_pure {a b : α} (same : shed a = shed b) : Mirrors shed (pure a) (pure b) := .done same

theorem mirrors_bind {p p' : Serve α} {f f' : α → Serve γ} (first : Mirrors shed p p')
    (second : ∀ a b, shed a = shed b → Mirrors shed' (f a) (f' b)) : Mirrors shed' (p >>= f) (p' >>= f') := by
  change Mirrors shed' (p.bind f) (p'.bind f')
  induction first with
  | done same => exact second _ _ same
  | ask plain _ ih => exact .ask plain ih
  | enter _ ih => exact .enter ih
  | leave same _ ih => exact .leave same ih

theorem mirrors_act {a : Act} {f f' : a.Answer → Serve α} (plain : (Question.act a).Plain)
    (further : ∀ answer, Mirrors shed (f answer) (f' answer)) : Mirrors shed (act a >>= f) (act a >>= f') :=
  .ask plain further

-- Beside itself, a program that leaves the content of the cache alone.
theorem mirrors_self {p : Serve α} (asks : Asks Question.Plain p) (shed : α → β) : Mirrors shed p p := by
  induction asks with
  | done value => exact .done rfl
  | ask plain _ ih => exact .ask plain ih

theorem mirrors_after {p : Serve γ} {f f' : γ → Serve α} (asks : Asks Question.Plain p)
    (further : ∀ answer, Mirrors shed (f answer) (f' answer)) : Mirrors shed (p >>= f) (p >>= f') := by
  apply mirrors_bind (mirrors_self asks id)
  rintro a _ rfl
  exact further a

end

theorem same_outcome {α β : Type} {f : α → β} {a b : Outcome α} (same : a.map f = b.map f) :
    (∃ halt, a = .error halt ∧ b = .error halt) ∨ ∃ x y, a = .ok x ∧ b = .ok y ∧ f x = f y := by
  cases a with
  | error halt =>
      cases b with
      | error halt' =>
          cases same
          exact .inl ⟨halt, rfl, rfl⟩
      | ok y => cases same
  | ok x =>
      cases b with
      | error halt => cases same
      | ok y => exact .inr ⟨x, y, rfl, rfl, Except.ok.inj same⟩

section Lookups

variable {setup : Setup} {r : Registry} {zone : String} {horizon : Nat} {s : NamedSnapshot}

theorem mirrors_cached (key : Key) {compute compute' : Serve (Outcome Prediction)}
    (inner : Mirrors (Except.map Prediction.unweighted) compute compute') :
    Mirrors (Except.map Cached.unweighted) (cached key compute) (cached key compute') := by
  refine mirrors_act id fun slot => .enter fun a b same => ?_
  match a, b with
  | none, none => exact mirrors_pure rfl
  | some (.found p), some (.found q) =>
      apply mirrors_pure
      simp only [Option.map_some, Entered.unweighted, Option.some.injEq, Entered.found.injEq] at same
      simp only [Except.map, Cached.unweighted, same]
  | some .granted, some .granted =>
      change Mirrors _ (compute >>= _) (compute' >>= _)
      refine mirrors_bind inner fun out out' alike => ?_
      obtain ⟨halt, rfl, rfl⟩ | ⟨p, q, rfl, rfl, values⟩ := same_outcome alike
      · exact .leave rfl (mirrors_pure rfl)
      · refine .leave (congrArg some values) (mirrors_pure ?_)
        simp only [Except.map, Cached.unweighted, values]
  | none, some _ => cases same
  | some _, none => cases same
  | some (.found p), some .granted => cases same
  | some .granted, some (.found q) => cases same

theorem mirrors_resolve_zone :
    Mirrors (Except.map Cached.unweighted) (resolveZone setup r horizon s zone)
      (resolveZone setup.unweighted r horizon s zone) := by
  apply mirrors_cached
  apply mirrors_self
  exact asks_act id fun now => asks_bind (asks_each fun v => asks_question id) fun _ => asks_pure _

def Gathered.unweighted (g : Gathered) : Outcome (List Prediction) × List Event :=
  (g.outcome.map (List.map (·.1.unweighted)), g.events)

theorem mirrors_gather (g : Group) (token : Token) (ask ask' : String → Serve (Outcome Prediction)) (members : List Member)
    (each : ∀ zone, Mirrors (Except.map Prediction.unweighted) (ask zone) (ask' zone)) :
    Mirrors Gathered.unweighted (gather ask g horizon token members)
      (gather ask' g.unweighted horizon token (members.map Member.unweighted)) := by
  induction members with
  | nil => exact mirrors_pure rfl
  | cons m rest ih =>
      rw [List.map_cons, gather, gather]
      refine mirrors_bind (each m.zone) fun out out' alike => ?_
      obtain ⟨halt, rfl, rfl⟩ | ⟨p, q, rfl, rfl, values⟩ := same_outcome alike
      · cases halt <;> exact mirrors_pure rfl
      · simp only [same_checked g horizon token m values]
        cases checkMember g horizon token m p with
        | error failure => exact mirrors_pure rfl
        | ok _ =>
            refine mirrors_bind ih fun others others' same => ?_
            apply mirrors_pure
            simp only [Gathered.unweighted, Prod.mk.injEq] at same
            obtain ⟨halt, here, there⟩ | ⟨ps, qs, here, there, parts⟩ := same_outcome same.1
            · simp only [Gathered.unweighted, here, there, Except.map, same.2]
            · simp only [Gathered.unweighted, here, there, Except.map, List.map_cons, values, parts, same.2]

theorem mirrors_group_forecast (combination : Combination) (g : Group) (token : Token) (now : Timestamp)
    (ask ask' : String → Serve (Outcome Prediction))
    (each : ∀ zone, Mirrors (Except.map Prediction.unweighted) (ask zone) (ask' zone)) :
    Mirrors (fun both => (both.1.map Prediction.unweighted, both.2))
      (groupForecast combination ask g horizon token now)
      (groupForecast combination ask' g.unweighted horizon token now) := by
  refine mirrors_bind (mirrors_gather g token ask ask' g.members each) fun gathered gathered' same => ?_
  obtain ⟨out, events⟩ := gathered
  obtain ⟨out', events'⟩ := gathered'
  simp only [Gathered.unweighted, Prod.mk.injEq] at same
  obtain ⟨alike, rfl⟩ := same
  obtain ⟨halt, rfl, rfl⟩ | ⟨parts, parts', rfl, rfl, values⟩ := same_outcome alike
  · exact mirrors_pure rfl
  · have sums := aggregate_unweighted g.id horizon token combination now values
    obtain ⟨_, _, point, _⟩ := same_values sums
    apply mirrors_pure
    simp only [Except.map, Group.unweighted, sums, point]
    rw [← unweighted_member_ids g]
    rfl

theorem mirrors_compute_group (g : Group) :
    Mirrors (Except.map Prediction.unweighted) (computeGroup setup r g horizon s)
      (computeGroup setup.unweighted r g.unweighted horizon s) := by
  refine mirrors_act id fun now => mirrors_bind (mirrors_group_forecast _ g s.token now _ _ fun zone => ?_) ?_
  · refine mirrors_bind mirrors_resolve_zone fun out out' alike => mirrors_pure ?_
    obtain ⟨halt, rfl, rfl⟩ | ⟨c, d, rfl, rfl, same⟩ := same_outcome alike
    · rfl
    · exact congrArg (Except.ok ∘ Cached.prediction) same
  · rintro ⟨out, events⟩ ⟨out', events'⟩ same
    simp only [Prod.mk.injEq] at same
    obtain ⟨alike, rfl⟩ := same
    exact mirrors_after (asks_each fun event => asks_question id) fun _ => mirrors_pure alike

theorem mirrors_resolve : Mirrors (Except.map Cached.unweighted) (resolve setup r zone horizon s)
    (resolve setup.unweighted r zone horizon s) := by
  have found : setup.unweighted.catalog.get? zone = (setup.catalog.get? zone).map Group.unweighted :=
    unweighted_get setup.catalog zone
  rw [resolve, resolve, found]
  cases setup.catalog.get? zone with
  | none => exact mirrors_resolve_zone
  | some g => exact mirrors_cached _ (mirrors_compute_group g)

end Lookups

def Service.unweighted (v : Service) : Service := { v with setup := v.setup.unweighted }

def ZoneStatus.unweighted (status : ZoneStatus) : ZoneStatus :=
  { status with current := status.current.map Prediction.unweighted }

section Operations

variable {v : Service} {α β : Type}

theorem store_plain (q : Question) (kind : q.OfStore) : q.Plain := by
  unfold Question.Plain Question.OfContent
  split <;> first | exact id | cases kind

theorem unweighted_snapshot_for (setup : Setup) (sourceName zone : String) (o : Options) :
    snapshotFor setup.unweighted sourceName zone o = snapshotFor setup sourceName zone o := by
  unfold snapshotFor
  rw [show involvedZones setup.unweighted.catalog zone = involvedZones setup.catalog zone from
    unweighted_involved setup.catalog zone]
  rfl

theorem snapshot_plain (setup : Setup) (sourceName zone : String) (o : Options) :
    Asks Question.Plain (snapshotFor setup sourceName zone o) :=
  asks_weaken (asks_snapshot_for sourceName zone o) store_plain

theorem mirrors_bounded (setup : Setup) (operation : String) {shed : α → β} {body body' : Serve (Outcome α)}
    (inner : Mirrors (Except.map shed) body body') :
    Mirrors (Except.map shed) (bounded setup operation body) (bounded setup.unweighted operation body') := by
  refine mirrors_bind inner fun out out' alike => ?_
  obtain ⟨halt, rfl, rfl⟩ | ⟨a, b, rfl, rfl, same⟩ := same_outcome alike
  · cases halt with
    | failed failure => exact mirrors_act id fun _ => mirrors_act id fun _ => mirrors_pure rfl
    | pastCalendar => exact mirrors_pure rfl
    | outOfTime => exact mirrors_act id fun _ => mirrors_act id fun _ => mirrors_pure rfl
  · exact mirrors_act id fun _ => mirrors_pure (congrArg Except.ok same)

-- Forecasts and trends: the same registry and the same snapshot, and what is made of them.
theorem mirrors_on_basis {shed : α → β} (zone : String) (o : Options)
    {further further' : Registry → NamedSnapshot → Serve (Outcome α)}
    (each : ∀ r s, Mirrors (Except.map shed) (further r s) (further' r s)) :
    Mirrors (Except.map shed) (v.onBasis zone o further) (v.unweighted.onBasis zone o further') := by
  have basis : v.unweighted.basis zone o = v.basis zone o := by
    simp only [Service.basis,
      show ∀ r, isKnown v.unweighted.setup.catalog r zone = isKnown v.setup.catalog r zone from fun _ =>
        unweighted_known ..,
      show snapshotFor v.unweighted.setup v.unweighted.sourceName zone o = snapshotFor v.setup v.sourceName zone o from
        unweighted_snapshot_for ..]
  have plain : Asks Question.Plain (v.basis zone o) := by
    refine asks_act id fun r => ?_
    split
    · exact asks_pure _
    · exact asks_bind (snapshot_plain _ _ zone o) fun _ => asks_pure _
  rw [Service.onBasis, Service.onBasis, basis]
  refine mirrors_after plain fun both => ?_
  obtain ⟨r, base⟩ := both
  cases base with
  | error halt => exact mirrors_pure rfl
  | ok s => exact each r s

-- What is put on record of a forecast is nothing but its values.
theorem mirrors_served (operation : String) {shed : α → β} {c d : Cached} {f f' : Unit → Serve α}
    (same : c.unweighted = d.unweighted) (further : ∀ answer, Mirrors shed (f answer) (f' answer)) :
    Mirrors shed (act (.note (served operation c)) >>= f) (act (.note (served operation d)) >>= f') := by
  simp only [Cached.unweighted, Cached.mk.injEq] at same
  obtain ⟨values, hit⟩ := same
  obtain ⟨zone, horizon, point, lower, upper, _, token, _⟩ := same_values values
  have event : served operation c = served operation d := by
    simp only [served, Prediction.width, zone, horizon, point, lower, upper, token, hit]
  rw [event]
  exact mirrors_act id further

theorem same_cached {c d : Cached} (same : c.unweighted = d.unweighted) :
    c.prediction.unweighted = d.prediction.unweighted := congrArg Cached.prediction same

theorem mirrors_predict (zone : String) (horizon : Nat) (o : Options) :
    Mirrors (Except.map Prediction.unweighted) (v.predict zone horizon o) (v.unweighted.predict zone horizon o) := by
  rw [predict_on_basis, predict_on_basis]
  refine mirrors_bounded _ _ (mirrors_on_basis zone o fun r s => mirrors_bind mirrors_resolve fun out out' alike => ?_)
  obtain ⟨halt, rfl, rfl⟩ | ⟨c, d, rfl, rfl, same⟩ := same_outcome alike
  · exact mirrors_pure rfl
  · exact mirrors_served "predict" same fun _ => mirrors_pure (congrArg Except.ok (same_cached same))

theorem mirrors_series (setup : Setup) (r : Registry) (zone : String) (s : NamedSnapshot) (horizons : List Nat) :
    Mirrors (Except.map (List.map Prediction.unweighted)) (Service.series setup r zone s horizons)
      (Service.series setup.unweighted r zone s horizons) := by
  induction horizons with
  | nil => exact mirrors_pure rfl
  | cons horizon rest ih =>
      rw [Service.series, Service.series]
      refine mirrors_bind mirrors_resolve fun out out' alike => ?_
      obtain ⟨halt, rfl, rfl⟩ | ⟨c, d, rfl, rfl, same⟩ := same_outcome alike
      · exact mirrors_pure rfl
      · refine mirrors_served "trend" same fun _ => mirrors_bind ih fun others others' values => mirrors_pure ?_
        obtain ⟨halt, rfl, rfl⟩ | ⟨ps, qs, rfl, rfl, rest⟩ := same_outcome values
        · rfl
        · simp only [Except.map, List.map_cons, same_cached same, rest]

theorem mirrors_trend (zone : String) (horizons : List Nat) (o : Options) :
    Mirrors (Except.map (List.map Prediction.unweighted)) (v.trend zone horizons o)
      (v.unweighted.trend zone horizons o) := by
  rw [trend_on_basis, trend_on_basis]
  exact mirrors_bounded _ _ (mirrors_on_basis zone o fun r s => mirrors_series _ r zone s horizons)

theorem mirrors_status (zone : String) :
    Mirrors (Except.map ZoneStatus.unweighted) (v.status zone) (v.unweighted.status zone) := by
  refine mirrors_bounded _ _ (mirrors_act id fun r => ?_)
  rw [show describe v.unweighted.setup.catalog r zone = describe v.setup.catalog r zone from
    unweighted_describe v.setup.catalog r zone]
  cases describe v.setup.catalog r zone with
  | error failure => exact mirrors_pure rfl
  | ok described =>
      have looked : Mirrors (Except.map Cached.unweighted) (v.currentForecast r zone)
          (v.unweighted.currentForecast r zone) := by
        unfold Service.currentForecast
        rw [show snapshotFor v.unweighted.setup v.unweighted.sourceName zone {} =
          snapshotFor v.setup v.sourceName zone {} from unweighted_snapshot_for v.setup v.sourceName zone {}]
        refine mirrors_after (snapshot_plain _ _ zone {}) fun base => ?_
        cases base with
        | error halt => exact mirrors_pure rfl
        | ok s => exact mirrors_resolve
      refine mirrors_bind looked fun out out' alike => ?_
      obtain ⟨halt, rfl, rfl⟩ | ⟨c, d, rfl, rfl, same⟩ := same_outcome alike
      · cases halt with
        | failed failure => exact mirrors_act id fun _ => mirrors_pure rfl
        | pastCalendar => exact mirrors_pure rfl
        | outOfTime => exact mirrors_pure rfl
      · refine mirrors_served "status" same fun _ => mirrors_act id fun last => mirrors_pure ?_
        simp only [Except.map, ZoneStatus.unweighted, Option.map_some, same_cached same]

theorem mirrors_zones : Mirrors id v.zones v.unweighted.zones := by
  refine mirrors_act id fun r => mirrors_pure ?_
  exact (unweighted_summaries v.setup.catalog r).symm

end Operations

section Documents

open Json (blanked blanked_record blanked_sparse blanked_array keptUnder)

-- The name under which a document tells a weight.
def weightName : String := "declared_weight"

theorem member_share_document (s : MemberShare) :
    s.unweighted.toJson.blanked weightName = s.toJson.blanked weightName := by
  simp only [MemberShare.toJson, MemberShare.unweighted, blanked_record, List.map_cons, List.map_nil]
  simp only [keptUnder, weightName, if_true]

theorem provenance_document (source : Provenance) :
    source.unweighted.toJson.blanked weightName = source.toJson.blanked weightName := by
  cases source with
  | models weightsVersion generation shares => rfl
  | members combination shares =>
      simp only [Provenance.unweighted, Provenance.toJson, blanked_record, List.map_cons, List.map_nil, keptUnder,
        blanked_array, List.map_map, Function.comp_def, member_share_document]

theorem prediction_document (p : Prediction) :
    p.unweighted.toJson.blanked weightName = p.toJson.blanked weightName := by
  simp only [Prediction.toJson, Prediction.unweighted, blanked_record, List.map_cons, List.map_nil, keptUnder,
    provenance_document]

theorem trend_document (zone : String) (ps : List Prediction) :
    (Web.trendJson zone (ps.map Prediction.unweighted)).blanked weightName =
      (Web.trendJson zone ps).blanked weightName := by
  simp only [Web.trendJson, blanked_record, List.map_cons, List.map_nil, keptUnder, blanked_array, List.map_map,
    Function.comp_def, prediction_document]

theorem status_document (status : ZoneStatus) :
    status.unweighted.toJson.blanked weightName = status.toJson.blanked weightName := by
  have current : (Json.option Prediction.toJson (status.current.map Prediction.unweighted)).blanked weightName =
      (Json.option Prediction.toJson status.current).blanked weightName := by
    cases status.current with
    | none => rfl
    | some p => exact prediction_document p
  simp only [ZoneStatus.toJson, ZoneStatus.unweighted, blanked_sparse, List.map_cons, List.map_nil, Option.map_some,
    keptUnder, current]

end Documents

def Web.Response.unweighted (response : Web.Response) : Web.Response :=
  { response with
    content :=
      match response.content with
      | .document j => .document (j.blanked weightName)
      | content => content }

section Web

variable {v : Service} {α β : Type}

theorem mirrors_respond {shed : α → β} {encode : α → Json} {p p' : Serve (Outcome α)}
    (mirrors : Mirrors (Except.map shed) p p')
    (alike : ∀ a b, shed a = shed b → (encode a).blanked weightName = (encode b).blanked weightName) :
    Mirrors (Except.map Web.Response.unweighted) (p >>= fun out => pure (Web.respond encode out))
      (p' >>= fun out => pure (Web.respond encode out)) := by
  refine mirrors_bind mirrors fun out out' same => mirrors_pure ?_
  obtain ⟨halt, rfl, rfl⟩ | ⟨a, b, rfl, rfl, values⟩ := same_outcome same
  · rfl
  · simp only [Web.respond, Except.map, Web.Response.unweighted, Web.Response.ok, Web.Response.document,
      alike a b values]

theorem same_documents {shed : α → α} {encode : α → Json}
    (document : ∀ a, (encode (shed a)).blanked weightName = (encode a).blanked weightName) (a b : α)
    (same : shed a = shed b) : (encode a).blanked weightName = (encode b).blanked weightName := by
  rw [← document a, same, document b]

theorem mirrors_with_zone (segment : String) {next next' : String → Serve (Outcome Web.Response)}
    (each : ∀ zone, Mirrors (Except.map Web.Response.unweighted) (next zone) (next' zone)) :
    Mirrors (Except.map Web.Response.unweighted) (Web.withZone segment next) (Web.withZone segment next') := by
  unfold Web.withZone
  cases Web.segmentText? segment with
  | none => exact mirrors_pure rfl
  | some zone => exact each zone

theorem replacement_plain (q : Question) (kind : q.OfReplacement) : q.Plain := by
  unfold Question.Plain Question.OfContent
  split <;> first | exact id | cases kind

theorem reload_plain : Asks Question.Plain Service.reload := asks_weaken asks_reload replacement_plain

theorem mirrors_web_serve (route : Web.Route) (request : Web.Request) :
    Mirrors (Except.map Web.Response.unweighted) (Web.Api.serve v route request)
      (Web.Api.serve v.unweighted route request) := by
  cases route with
  | zones =>
      refine mirrors_act id fun r => mirrors_bind mirrors_zones ?_
      rintro summaries _ rfl
      exact mirrors_pure rfl
  | predict segment =>
      apply mirrors_with_zone
      intro zone
      by_cases posted : request.method = .post
      · rw [if_pos posted, if_pos posted, Web.Api.predictBody, Web.Api.predictBody]
        cases Web.Wanted.ofBody? request.contentType request.body with
        | none => exact mirrors_pure rfl
        | some wanted => exact mirrors_respond (mirrors_predict zone _ _) (same_documents prediction_document)
      · rw [if_neg posted, if_neg posted, Web.Api.predictQuery, Web.Api.predictQuery]
        rcases Web.pointQuery? request.query with _ | ⟨_ | horizon, snapshot⟩
        · exact mirrors_pure rfl
        · exact mirrors_pure rfl
        · exact mirrors_respond (mirrors_predict zone _ _) (same_documents prediction_document)
  | trend segment =>
      apply mirrors_with_zone
      intro zone
      rw [Web.Api.trend, Web.Api.trend]
      rcases Web.trendQuery? request.query with _ | ⟨text, snapshot⟩
      · exact mirrors_pure rfl
      · dsimp only
        cases Web.horizonsOfText text with
        | error message => exact mirrors_pure rfl
        | ok horizons =>
            exact mirrors_respond (mirrors_trend zone horizons _) (same_documents (trend_document zone))
  | status segment =>
      apply mirrors_with_zone
      intro zone
      exact mirrors_respond (mirrors_status zone) (same_documents status_document)
  | reload => exact mirrors_self (asks_bind reload_plain fun _ => asks_pure _) _
  | health => exact mirrors_act id fun _ => mirrors_pure rfl
  | readiness => exact mirrors_act id fun _ => mirrors_pure rfl
  | metrics => exact mirrors_act id fun _ => mirrors_pure rfl

theorem mirrors_web (request : Web.Request) :
    Mirrors (Except.map Web.Response.unweighted) (Web.Api.answer v request)
      (Web.Api.answer v.unweighted request) := by
  rw [Web.Api.answer, Web.Api.answer]
  cases Web.Route.ofPath? request.path with
  | none => exact mirrors_pure rfl
  | some route =>
      dsimp only
      by_cases allowed : route.allows request.method
      · rw [allowed]
        refine mirrors_bind (mirrors_web_serve route request) fun out out' same => mirrors_pure ?_
        by_cases head : request.method = .head
        · rw [if_pos head, if_pos head]
          obtain ⟨halt, rfl, rfl⟩ | ⟨a, b, rfl, rfl, responses⟩ := same_outcome same
          · rfl
          · have status : a.unweighted.status = b.unweighted.status := by rw [responses]
            exact congrArg (fun code => Except.ok (Web.Response.empty code).unweighted) status
        · rw [if_neg head, if_neg head]
          exact same
      · rw [Bool.not_eq_true] at allowed
        rw [allowed]
        exact mirrors_pure rfl

end Web

-- An answer without the weights that it carries.
def Ask.unweighted : (ask : Ask) → ask.Answer → ask.Answer
  | .predict .., out => out.map Prediction.unweighted
  | .trend .., out => out.map (List.map Prediction.unweighted)
  | .status _, out => out.map ZoneStatus.unweighted
  | .zones, summaries => summaries
  | .reload, out => out
  | .purge, counts => counts
  | .web _, out => out.map Web.Response.unweighted

theorem mirrors_ask (v : Service) (ask : Ask) : Mirrors ask.unweighted (ask.program v) (ask.program v.unweighted) := by
  cases ask with
  | predict zone horizon o => exact mirrors_predict zone horizon o
  | trend zone horizons o => exact mirrors_trend zone horizons o
  | status zone => exact mirrors_status zone
  | zones => exact mirrors_zones
  | reload => exact mirrors_self reload_plain id
  | purge => exact mirrors_act id fun _ => mirrors_act id fun _ => mirrors_act id fun _ => mirrors_act id fun _ => mirrors_pure rfl
  | web request => exact mirrors_web request

end GridLoad
