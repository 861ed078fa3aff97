import GridLoad.Proofs.Serving.Heard

/-!
The health of a service that serves one request after another: it says of the registry what is served, and of the source
how it fared when the current snapshot was last looked for.
-/

set_option autoImplicit false

namespace GridLoad

open GridLoad.Time (Span)

namespace Engine

-- What the look at the current snapshot comes to that a deed takes. A request takes none whose snapshot is given, or
-- that asks for a zone that is not there.
def looks (v : Service) (e : Engine) : Deed → Option (Outcome ServedSnapshot)
  | .serve budget ask => do
      let (zone, o) ← ask.operation?.bind Operation.point?
      if o.snapshot = none ∧ isKnown v.setup.catalog e.publication.current zone = true then
        some (e.receive.1.tick.lookup v e.callers (budget.map fun b => e.clock.millis + b.millisAbove))
      else none
  | _ => none

-- What the looks come to that deeds take in turn.
def looked (v : Service) : List Deed → Engine → List (Outcome ServedSnapshot)
  | [], _ => []
  | deed :: rest, e => (e.looks v deed).toList ++ looked v rest (e.does v deed).1

-- Deeds that are to say nothing of the source.
inductive Spares (v : Service) (e : Engine) : Deed → Prop
  | given {budget : Option Span} {ask : Ask} {op : Operation} {zone : String} {o : Options} (comes : ask.operation? = some op)
      (point : op.point? = some (zone, o)) (snapshot : o.snapshot ≠ none) : Spares v e (.serve budget ask)
  | unknown {budget : Option Span} {ask : Ask} {op : Operation} {zone : String} {o : Options} (comes : ask.operation? = some op)
      (point : op.point? = some (zone, o)) (unknown : isKnown v.setup.catalog e.publication.current zone = false) :
      Spares v e (.serve budget ask)
  | reload {budget : Option Span} {ask : Ask} (comes : ask.operation? = some .reload) : Spares v e (.serve budget ask)
  | reading {budget : Option Span} {ask : Ask} (none : ask.operation? = none) : Spares v e (.serve budget ask)
  | passing {deed : Deed} (idle : ∀ budget ask, deed ≠ .serve budget ask) : Spares v e deed
  | givenUp {deed : Deed} {out : Outcome ServedSnapshot} (look : e.looks v deed = some out)
      (silent : sourceCondition? out = none) : Spares v e deed

section

variable {v : Service} {e e' : Engine} {caller : Caller} {deadline : Option Nat} {found : Option Finding}

theorem pointed_heard {op : Operation} {zone : String} {o : Options} (point : op.point? = some (zone, o)) (e : Engine) :
    Heard (e.begun v zone o caller deadline) e (e.run caller deadline (op.program v)).1 := by
  cases op with
  | predict _ horizon _ =>
      cases point
      exact predict_heard horizon
  | trend _ horizons _ =>
      cases point
      exact trend_heard horizons
  | status _ =>
      cases point
      exact status_heard
  | reload => cases point

theorem serve_heard {α : Type} {budget : Option Span} {p : Serve α}
    (heard : Heard found e.receive.1
      (e.receive.1.run e.callers (budget.map fun b => e.clock.millis + b.millisAbove) p).1) :
    Heard found e (e.serve ⟨budget, p⟩).1 :=
  have received : e.Steady e.receive.1 := ⟨rfl, rfl⟩
  heard_before (heard_after received heard) (lasting_before steady_lasting _ _)

theorem serve_rereads {α : Type} {budget : Option Span} {p : Serve α}
    (settles : e.receive.1.Rereads?
      (e.receive.1.run e.callers (budget.map fun b => e.clock.millis + b.millisAbove) p).1) :
    e.Rereads? (e.serve ⟨budget, p⟩).1 :=
  have received : e.Steady e.receive.1 := ⟨rfl, rfl⟩
  rereads_before (rereads_after received settles) (lasting_before steady_lasting _ _)

theorem run_then_pure {α β : Type} (p : Serve α) (f : α → β) (e : Engine) :
    (e.run caller deadline (p >>= fun out => pure (f out))).1 = (e.run caller deadline p).1 := by
  rw [run_bind, run_pure]

theorem does_serve (v : Service) (e : Engine) (budget : Option Span) (ask : Ask) :
    (e.does v (.serve budget ask)).1 = (e.serve ⟨budget, ask.program v⟩).1 := rfl

theorem looks_pointed {budget : Option Span} {ask : Ask} {op : Operation} {zone : String} {o : Options}
    (comes : ask.operation? = some op) (point : op.point? = some (zone, o)) :
    (e.looks v (.serve budget ask)).bind sourceFinding = e.receive.1.begun v zone o e.callers
      (budget.map fun b => e.clock.millis + b.millisAbove) := by
  simp only [Engine.looks, comes, point, Option.bind_eq_bind, Option.bind_some, begun]
  split
  · exact (if_pos (by assumption)).symm
  · exact (if_neg (by assumption)).symm

theorem looks_reload {budget : Option Span} {ask : Ask} (comes : ask.operation? = some .reload) :
    e.looks v (.serve budget ask) = none := by simp [Engine.looks, comes, Operation.point?]

theorem looks_reading {budget : Option Span} {ask : Ask} (none : ask.operation? = none) :
    e.looks v (.serve budget ask) = Option.none := by simp [Engine.looks, none]

-- A deed changes what is found of the source, by its look, or what is found of the registry, by a reload.
theorem does_heard (v : Service) (e : Engine) (deed : Deed) :
    Heard ((e.looks v deed).bind sourceFinding) e (e.does v deed).1 ∨
      (e.looks v deed = none ∧ e.Rereads? (e.does v deed).1) := by
  cases deed with
  | pass millis =>
      have passed : e.Steady (e.pass millis) := steady_trans (lasting_pass steady_lasting e _) (lasting_before steady_lasting _ _)
      exact .inl (heard_nothing passed)
  | sleep millis =>
      obtain ⟨⟩ := e
      exact .inl (heard_nothing ⟨rfl, rfl⟩)
  | outside files source wall =>
      have changed : e.Steady (e.outside files source wall) := ⟨rfl, rfl⟩
      exact .inl (heard_nothing changed)
  | serve budget ask =>
      rw [does_serve]
      have carries := carries_ask v ask
      generalize comes : ask.operation? = op? at carries
      cases carries with
      | nothing aside =>
          rw [looks_reading comes]
          exact .inl (serve_heard (heard_nothing (run_steady _ _ (Program.asks_weaken aside aside_mute) _)))
      | out op f same =>
          have pointed : ∀ {zone o}, op.point? = some (zone, o) → Heard ((e.looks v (.serve budget ask)).bind sourceFinding) e
              (e.serve ⟨budget, ask.program v⟩).1 := by
            intro zone o point
            refine serve_heard ?_
            rw [looks_pointed comes point, same, run_then_pure]
            exact pointed_heard point e.receive.1
          cases op with
          | predict | trend | status => exact .inl (pointed rfl)
          | reload =>
              refine .inr ⟨looks_reload comes, serve_rereads ?_⟩
              rw [same, run_then_pure]
              exact reload_settles _ _ _

theorem spares_silent {deed : Deed} (spares : Spares v e deed) : (e.looks v deed).bind sourceFinding = none := by
  cases spares with
  | given comes point snapshot => simp [Engine.looks, comes, point, snapshot]
  | unknown comes point unknown => simp [Engine.looks, comes, point, unknown]
  | reload comes => rw [looks_reload comes, Option.bind_none]
  | reading none => rw [looks_reading none, Option.bind_none]
  | passing idle =>
      cases deed with
      | serve budget ask => exact absurd rfl (idle budget ask)
      | pass | sleep | outside => rfl
  | @givenUp _ out look silent =>
      rw [look, Option.bind_some]
      rw [← source_finding_condition] at silent
      exact Option.map_eq_none_iff.mp silent

end

end Engine

-- This is found of a component, whenever it was found.
def Health.Shows (h : Health) (c : Component) (f : Finding) : Prop :=
  (h.findings.get? c.name).map Finding.undated = some f.undated

def Component.names : List String := ["cache", "feature_source", "registry"]

section

variable {h : Health} {c d : Component} {f g : Finding}

theorem component_listed (c : Component) : c.name ∈ Component.names := by
  cases c <;> simp [Component.name, Component.names]

theorem component_names (different : c ≠ d) : c.name ≠ d.name := by
  cases c <;> cases d <;> first | exact absurd rfl different | (simp [Component.name])

theorem shows_updated (h : Health) (c : Component) (f : Finding) (second : Int) :
    (h.update c.name { f with checkedAt := second }).Shows c f := by
  simp [Health.Shows, Health.update, Finding.undated]

theorem shows_beside (shows : h.Shows d g) (different : d ≠ c) : (h.update c.name f).Shows d g := by
  unfold Health.Shows Health.update
  rw [Table.get_insert_other _ _ _ _ (component_names different)]
  exact shows

theorem keys_insert_entry {key : String} {value : Finding} {entries : List (String × Finding)}
    (increasing : entries.Pairwise fun a b => a.1 < b.1) (there : key ∈ entries.map (·.1)) :
    (Table.insertEntry key value entries).map (·.1) = entries.map (·.1) := by
  induction entries with
  | nil => cases there
  | cons head rest ih =>
      have parts := List.pairwise_cons.mp increasing
      rw [Table.insertEntry]
      rcases List.mem_cons.mp there with rfl | later
      · rw [if_neg (String.lt_irrefl _), if_pos rfl]
        rfl
      · obtain ⟨e, member, rfl⟩ := List.mem_map.mp later
        have before := parts.1 e member
        rw [if_neg (String.lt_asymm before), if_neg fun same => String.lt_irrefl _ (same ▸ before), List.map_cons,
          ih parts.2 later, List.map_cons]

theorem keys_update (keys : h.findings.keys = Component.names) (c : Component) (f : Finding) :
    (h.update c.name f).findings.keys = Component.names := by
  refine (keys_insert_entry h.findings.increasing ?_).trans keys
  change c.name ∈ h.findings.keys
  rw [keys]
  exact component_listed c

end

namespace Engine

-- The health says what is served, and what the looks have come to so far.
structure Sees (looked : List (Outcome ServedSnapshot)) (e : Engine) : Prop where
  components : e.health.findings.keys = Component.names
  registry : e.health.Shows .registry e.publication.current.finding
  source : e.health.Shows .featureSource ((looked.filterMap sourceFinding).getLast?.getD .healthy)
  cache : e.health.Shows .cache .healthy
  ready : e.health.ready = true

section

variable {v : Service} {e e' : Engine} {looked : List (Outcome ServedSnapshot)}

theorem sees_heard {look : Option (Outcome ServedSnapshot)} (sees : e.Sees looked)
    (heard : Heard (look.bind sourceFinding) e e') : e'.Sees (looked ++ look.toList) := by
  obtain ⟨hears, publication⟩ := heard
  cases found : look.bind sourceFinding with
  | none =>
      have same : e'.health = e.health := by simpa [Health.Hears, found] using hears
      have silent : look.toList.filterMap sourceFinding = [] := by
        cases look with
        | none => rfl
        | some out => simpa using found
      constructor <;> simp only [same, publication, List.filterMap_append, silent, List.append_nil]
      · exact sees.components
      · exact sees.registry
      · exact sees.source
      · exact sees.cache
      · exact sees.ready
  | some f =>
      obtain ⟨second, updated⟩ : ∃ second, e'.health = e.health.update Component.featureSource.name
          { f with checkedAt := second } := by simpa [Health.Hears, found] using hears
      have last : look.toList.filterMap sourceFinding = [f] := by
        obtain ⟨out, rfl, told⟩ := Option.bind_eq_some_iff.mp found
        simp [told]
      constructor <;> simp only [updated, publication, List.filterMap_append, last, List.getLast?_concat, Option.getD_some]
      · exact keys_update sees.components .featureSource _
      · exact shows_beside sees.registry (by decide)
      · exact shows_updated e.health .featureSource f second
      · exact shows_beside sees.cache (by decide)
      · exact sees.ready

theorem sees_reread (sees : e.Sees looked) (rereads : e.Rereads? e') : e'.Sees looked := by
  rcases rereads with ⟨health, current⟩ | ⟨second, updated⟩
  · constructor <;> simp only [health, current]
    · exact sees.components
    · exact sees.registry
    · exact sees.source
    · exact sees.cache
    · exact sees.ready
  · constructor <;> simp only [updated]
    · exact keys_update sees.components .registry _
    · exact shows_updated e.health .registry _ second
    · exact shows_beside sees.source (by decide)
    · exact shows_beside sees.cache (by decide)
    · exact sees.ready

theorem does_sees (sees : e.Sees looked) (v : Service) (deed : Deed) :
    (e.does v deed).1.Sees (looked ++ (e.looks v deed).toList) := by
  rcases does_heard v e deed with heard | ⟨none, rereads⟩
  · exact sees_heard sees heard
  · rw [none, Option.toList_none, List.append_nil]
    exact sees_reread sees rereads

theorem driven_sees (sees : e.Sees looked) (v : Service) (deeds : List Deed) :
    (e.driven v deeds).1.Sees (looked ++ e.looked v deeds) := by
  induction deeds generalizing e looked with
  | nil => simpa [driven, Engine.looked] using sees
  | cons deed rest ih =>
      have later := ih (does_sees sees v deed)
      rwa [List.append_assoc] at later

-- A deed that spares the source leaves what is found of it as it is, to the second.
theorem spares_source {deed : Deed} (spares : Spares v e deed) :
    (e.does v deed).1.health.findings.get? Component.featureSource.name =
      e.health.findings.get? Component.featureSource.name := by
  have silent := spares_silent spares
  rcases does_heard v e deed with heard | ⟨_, ⟨health, _⟩ | ⟨second, updated⟩⟩
  · rw [silent] at heard
    rw [show (e.does v deed).1.health = e.health from heard.hears]
  · rw [health]
  · rw [updated]
    exact Table.get_insert_other _ _ _ _ (by decide)

end

end Engine

theorem named_empty (a b c : Finding) :
    (((Table.empty.insert Component.featureSource.name a).insert Component.cache.name b).insert
      Component.registry.name c).keys = Component.names := by
  have first : "cache" < "feature_source" := by decide
  have second : "cache" < "registry" := by decide
  have third : "feature_source" < "registry" := by decide
  simp [Table.insert, Table.insertEntry, Table.empty, Table.keys, Component.name, Component.names, first,
    String.lt_asymm second, String.lt_asymm third]

-- Before the first request everything is found once: the source and the cache sound, the registry as it is.
theorem introduction_sees {e : Engine} (fresh : e.health.findings = .empty) {r : Registry}
    (current : e.publication.current = r) :
    let e' := (e.serve ⟨none, introduction r⟩).1
    { e' with health := e'.health.setReady true }.Sees [] := by
  intro e'
  let begun := (e.receive.1.tick.perform (.find .featureSource .healthy)).1
  let found := (begun.tick.perform (.find .cache .healthy)).1
  have announced : Engine.Announced r found e' :=
    Engine.announced_before (Engine.announce_finds r e.callers none found) (Engine.lasting_before Engine.steady_lasting _ _)
  obtain ⟨⟨second, updated⟩, publication⟩ := announced
  have sources : found.health.Shows .featureSource .healthy :=
    shows_beside (shows_updated e.health .featureSource .healthy e.clock.wall.seconds) (by decide)
  have caches : found.health.Shows .cache .healthy :=
    shows_updated begun.health .cache .healthy e.clock.wall.seconds
  constructor <;> simp only [Health.setReady, updated]
  · change ((((e.health.findings.insert _ _).insert _ _).insert _ _) : Table String Finding).keys = _
    rw [fresh]
    exact named_empty _ _ _
  · have served : found.publication.current = r := current
    rw [publication, served]
    exact shows_updated found.health .registry r.finding second
  · exact shows_beside sources (by decide)
  · exact shows_beside caches (by decide)

theorem launch_sees {setup : Setup} {r : Registry} {source : Source} {files : Files} {clock : Clock}
    {running : Running} (started : launch setup r source files clock = .ok running) : running.engine.Sees [] := by
  unfold launch at started
  split at started
  · cases started
  · cases started
    exact introduction_sees rfl rfl

-- The health of a service that serves this registry, and whose looks for a snapshot have come to this.
structure Health.Tells (r : Registry) (looked : List (Outcome ServedSnapshot)) (h : Health) : Prop where
  components : h.findings.keys = ["cache", "feature_source", "registry"]
  registry : ∃ f, h.findings.get? "registry" = some f ∧
    f.condition =
      (if r.availableZones = [] then .unhealthy else if r.unavailableZones = [] then .healthy else .degraded) ∧
    (f.condition ≠ .healthy → ∃ rest, f.message = some ("generation " ++ toString r.generation ++ ": " ++ rest))
  source : ∃ f, h.findings.get? "feature_source" = some f ∧
    f.condition = (looked.filterMap sourceCondition?).getLast?.getD .healthy
  cache : ∃ f, h.findings.get? "cache" = some f ∧ f.condition = .healthy

-- The whole is as bad as the worst of its components, in whatever order they are looked through, and the service is
-- ready as long as the whole has not failed.
structure Health.Summed (h : Health) : Prop where
  scanned : ∀ fs, fs.Perm h.findings.values → scan false fs = h.report.condition
  bounds : ∀ f ∈ h.findings.values, f.condition.rank ≤ h.report.condition.rank
  reached : ∃ f ∈ h.findings.values, f.condition = h.report.condition
  ready : h.readiness.ready = true ↔ h.report.condition ≠ .unhealthy

section

variable {h : Health} {f : Finding} {looked : List (Outcome ServedSnapshot)} {e : Engine}

theorem shown {c : Component} (shows : h.Shows c f) : ∃ found, h.findings.get? c.name = some found ∧
    found.condition = f.condition ∧ found.message = f.message := by
  obtain ⟨found, there, same⟩ := Option.map_eq_some_iff.mp shows
  have parts : found.condition = f.condition ∧ found.message = f.message := by simpa [Finding.undated] using same
  exact ⟨found, there, parts⟩

theorem latest_condition (looked : List (Outcome ServedSnapshot)) :
    ((looked.filterMap sourceFinding).getLast?.getD .healthy).condition =
      (looked.filterMap sourceCondition?).getLast?.getD .healthy := by
  have conditions : looked.filterMap sourceCondition? = (looked.filterMap sourceFinding).map (·.condition) := by
    rw [List.map_filterMap]
    exact List.filterMap_congr fun out _ => (source_finding_condition out).symm
  rw [conditions, List.getLast?_map]
  cases (looked.filterMap sourceFinding).getLast? <;> rfl

theorem sees_tells (sees : e.Sees looked) : e.health.Tells e.publication.current looked where
  components := sees.components
  registry := by
    obtain ⟨f, there, condition, message⟩ := shown sees.registry
    refine ⟨f, there, condition.trans (registry_condition _), fun ill => ?_⟩
    rw [message]
    exact registry_message _ (condition ▸ ill)
  source := by
    obtain ⟨f, there, condition, _⟩ := shown sees.source
    exact ⟨f, there, condition.trans (latest_condition looked)⟩
  cache := by
    obtain ⟨f, there, condition, _⟩ := shown sees.cache
    exact ⟨f, there, condition⟩

theorem sees_summed (sees : e.Sees looked) : e.health.Summed where
  scanned _ same := scan_worst same
  bounds _ member := worst_bounds member
  reached := by
    refine worst_found fun none => ?_
    have empty : e.health.findings.entries = [] := List.map_eq_nil_iff.mp none
    have keys := sees.components
    rw [Table.keys, empty] at keys
    cases keys
  ready := ready_operational sees.ready

end

/-- The health of a service follows what it serves and how its source fares, whatever a client does in turn. -/
theorem health_follows {setup : Setup} {r : Registry} {source : Source} {files : Files} {clock : Clock}
    {running : Running} (started : launch setup r source files clock = .ok running) (deeds : List Deed) :
    let e := (running.engine.driven running.service deeds).1
    e.health.Tells e.publication.current (running.engine.looked running.service deeds) ∧ e.health.Summed ∧
      ∀ deed, e.Spares running.service deed →
        (e.does running.service deed).1.health.findings.get? "feature_source" =
          e.health.findings.get? "feature_source" := by
  have sees := Engine.driven_sees (launch_sees started) running.service deeds
  exact ⟨sees_tells sees, sees_summed sees, fun deed spares => Engine.spares_source spares⟩

namespace Sample

/-! The worked example whose source fails at first and then recovers, and a forecast for the snapshot's token. -/

def silent : Source := { source with origin := .fixed (.error "no answer") }

def faltering : List Deed := [.outside .empty silent morning, .serve none (.predict "SCE" 24 {})]

def recovering : List Deed := faltering ++ [.outside .empty source morning, .serve none (.status "SP15")]

def askedPinned : Deed := .serve none (.predict "SCE" 24 pinned)

theorem recovering_evaluated :
    (((running {} morning).engine.driven (running {} morning).service faltering).1.health.report.condition = .unhealthy ∧
      ((running {} morning).engine.driven (running {} morning).service recovering).1.health.report.condition = .healthy) ∧
    ((running {} morning).engine.looked (running {} morning).service recovering).map sourceCondition? =
      [some .unhealthy, some .healthy] := by decide +kernel

theorem recovering_followed :
    launch ⟨{}, groups⟩ (registry 1) source .empty { wall := morning } = .ok (running {} morning) ∧
    ((running {} morning).engine.driven (running {} morning).service faltering).1.health.readiness.ready = false ∧
    let e := ((running {} morning).engine.driven (running {} morning).service recovering).1
    e.health.Tells e.publication.current ((running {} morning).engine.looked (running {} morning).service recovering) ∧
      ((running {} morning).engine.looked (running {} morning).service recovering).map sourceCondition? =
        [some .unhealthy, some .healthy] ∧
      e.health.readiness.ready = true ∧
      (e.does (running {} morning).service askedPinned).1.health.findings.get? "feature_source" =
        e.health.findings.get? "feature_source" := by
  obtain ⟨_, _, _, _, valid, _⟩ := evaluated
  have begun := started valid morning
  obtain ⟨⟨unhealthy, healthy⟩, looked⟩ := recovering_evaluated
  obtain ⟨_, faltered, _⟩ := health_follows begun faltering
  obtain ⟨tells, recovered, spared⟩ := health_follows begun recovering
  refine ⟨begun, ?_, tells, looked, recovered.ready.mpr ?_, spared askedPinned (.given rfl rfl (by simp [pinned]))⟩
  · exact Bool.eq_false_iff.mpr fun ready => faltered.ready.mp ready unhealthy
  · rw [healthy]
    decide

end Sample

end GridLoad
