import GridLoad.Proofs.Serving.LookupRuns
import GridLoad.Proofs.Serving.Reloading
import GridLoad.Proofs.Serving.Renumbered

/-!
A reload of models that have not changed. A request that is made after it is answered as it would have been before it,
at the same time, but for the number of the registry: the store is the same, so that both rest on one snapshot, and what
the cache had and has no longer is computed again.
-/

set_option autoImplicit false

namespace GridLoad

open Program
open GridLoad.Time (Span Timestamp)

-- What zones are read from under a directory is the same in both file systems, in whatever order it is listed.
def UnchangedUnder (root : Path) (files files' : Files) : Prop :=
  ∀ entries entries', files.list? root = .ok entries → files'.list? root = .ok entries' →
    NamedOnce entries ∧ NamedOnce entries' ∧ SameModels root entries entries'

theorem directory_listed {files : Files} {root : Path} {generation : Nat} {r : Registry}
    (loaded : Registry.ofDirectory files root generation = .ok r) :
    ∃ entries, files.list? root = .ok entries ∧ r = ⟨generation, some root, zonesOf root entries⟩ := by
  unfold Registry.ofDirectory at loaded
  split at loaded
  · cases loaded
  · rename_i entries listed
    exact ⟨entries, listed, (Except.ok.inj loaded).symm⟩

theorem directory_again {files files' : Files} {root : Path} {n n' : Nat} {r r' : Registry}
    (unchanged : UnchangedUnder root files files') (loaded : Registry.ofDirectory files root n = .ok r)
    (again : Registry.ofDirectory files' root n' = .ok r') : r'.zones = r.zones := by
  obtain ⟨entries, listed, rfl⟩ := directory_listed loaded
  obtain ⟨entries', listed', rfl⟩ := directory_listed again
  obtain ⟨once, once', same⟩ := unchanged entries entries' listed listed'
  exact (zones_same once once' same).symm

namespace Engine

-- The same state at another time.
def clocked (clock : Clock) (e : Engine) : Engine := { e with clock := clock }

-- Two states with one store, in which registries are served that differ in their number alone.
structure Alike (e e' : Engine) : Prop where
  store : e.SameStore e'
  zones : e'.publication.current.zones = e.publication.current.zones

variable {v : Service} {e e' : Engine} {zone : String} {o : Options} {caller caller' : Caller} {deadline : Option Nat}

theorem serve_run {α : Type} (e : Engine) (budget : Option Span) (p : Serve α) : (e.serve ⟨budget, p⟩).2 =
    (e.receive.1.run e.callers (budget.map fun b => e.clock.millis + b.millisAbove) p).2 := rfl

theorem basis_known (known : isKnown v.setup.catalog e.publication.current zone = true) :
    e.run caller deadline (v.basis zone o) =
      ((e.tick.run caller deadline (snapshotFor v.setup v.sourceName zone o)).1,
        (e.publication.current, (e.tick.run caller deadline (snapshotFor v.setup v.sourceName zone o)).2)) := by
  unfold Service.basis
  rw [run_act]
  simp only [perform, tick, known, Bool.not_true, Bool.false_eq_true, if_false]
  rw [run_bind, run_pure]

theorem basis_unknown (unknown : isKnown v.setup.catalog e.publication.current zone = false) :
    e.run caller deadline (v.basis zone o) = (e.tick, (e.publication.current, fail (.noModel zone))) := by
  unfold Service.basis
  rw [run_act]
  simp only [perform, tick, unknown, Bool.not_false, if_true]
  rw [run_pure]

theorem basis_beside (v : Service) (zone : String) (o : Options) (caller : Caller) (deadline : Option Nat) (e : Engine) :
    e.Beside (e.run caller deadline (v.basis zone o)).1 := by
  have ticked : e.Beside e.tick := ⟨rfl, rfl⟩
  cases known : isKnown v.setup.catalog e.publication.current zone with
  | false =>
      rw [basis_unknown known]
      exact ticked
  | true =>
      rw [basis_known known]
      exact beside_trans ticked (run_beside caller deadline (asks_snapshot_for _ _ _) _)

-- Both requests go on with the same snapshot, or end in the same way.
theorem basis_same (alike : e.Alike e') (v : Service) (zone : String) (o : Options) (caller caller' : Caller)
    (deadline : Option Nat) : ∃ base,
      (e.run caller deadline (v.basis zone o)).2 = (e.publication.current, base) ∧
      (e'.run caller' deadline (v.basis zone o)).2 = (e'.publication.current, base) := by
  have same : isKnown v.setup.catalog e'.publication.current zone = isKnown v.setup.catalog e.publication.current zone :=
    known_renumbered alike.zones _ _
  cases known : isKnown v.setup.catalog e.publication.current zone with
  | false =>
      rw [basis_unknown known, basis_unknown (same.trans known)]
      exact ⟨_, rfl, rfl⟩
  | true =>
      rw [basis_known known, basis_known (same.trans known)]
      have asks : Asks Question.OfStore (snapshotFor v.setup v.sourceName zone o) := asks_snapshot_for _ _ _
      exact ⟨_, rfl, congrArg _ (run_same caller caller' deadline asks (tick_same alike.store)).2⟩

theorem basis_genuine {h : History} {r : Registry} {s : NamedSnapshot} (sound : e.Sound v.setup h)
    (begun : (e.run caller deadline (v.basis zone o)).2 = (r, .ok s)) : s.token = s.snapshot.token := by
  obtain ⟨h', _, founds⟩ := run_passes caller deadline (t := []) sound fun Γ _ => meets_basis (Γ := Γ) v zone o []
  rw [begun] at founds
  exact (founds_known founds).2

-- Two requests that go on with one snapshot, on registries that differ in their number alone.
structure Footing (v : Service) (free : Prop) (zone : String) (o : Options) (base : Outcome NamedSnapshot)
    (caller caller' : Caller) (deadline : Option Nat) (e e' : Engine) : Prop where
  begun : (e.run caller deadline (v.basis zone o)).2 = (e.publication.current, base)
  begun' : (e'.run caller' deadline (v.basis zone o)).2 = (e'.publication.current, base)
  serves : ∃ h, e.Serves v h free e.publication.current base
  serves' : ∃ h, e'.Serves v h free e'.publication.current base
  zones : e'.publication.current.zones = e.publication.current.zones

theorem settled_map {α β : Type} {setup : Setup} {f : α → β} {a b : Outcome α} (same : a.map f = b.map f) :
    (settled setup a).map f = (settled setup b).map f := by
  match a, b, same with
  | .ok x, .ok y, same => exact same
  | .error halt, .error _, same =>
      cases same
      rfl

/-! What a request does once it has a registry, and a snapshot or none. -/

def lookOn {α : Type} (look : NamedSnapshot → Serve (Outcome α)) : Outcome NamedSnapshot → Serve (Outcome α)
  | .error halt => pure (.error halt)
  | .ok s => look s

def lookPoint (setup : Setup) (zone : String) (horizon : Nat) (r : Registry) (s : NamedSnapshot) :
    Serve (Outcome Prediction) := do
  match ← resolve setup r zone horizon s with
  | .error halt => pure (.error halt)
  | .ok c => do
      act (.note (served "predict" c))
      pure (.ok c.prediction)

def lookStatus (v : Service) (zone : String) (r : Registry) (base : Outcome NamedSnapshot) :
    Serve (Outcome ZoneStatus) :=
  match describe v.setup.catalog r zone with
  | .error f => pure (fail f)
  | .ok described => do
      let forecast ← v.forecastOf zone r base
      Service.finishStatus zone described forecast

-- Neither was given up for want of time.
def InTime {α : Type} (v : Service) (out out' : Outcome α) : Prop :=
  out ≠ fail (.timedOut v.setup.settings.requestTimeout) ∧ out' ≠ fail (.timedOut v.setup.settings.requestTimeout)

section

variable {α β : Type} {plain : α → β} {free : Prop} {base : Outcome NamedSnapshot} {program : Serve (Outcome α)}
  {operation : String}

-- Whatever follows from the registry and the snapshot alone is the same for both: each run comes to what it would
-- come to with an empty cache.
theorem program_alike (footing : Footing v free zone o base caller caller' deadline e e')
    (further : Registry → Outcome NamedSnapshot → Serve (Outcome α)) (value : Registry → Outcome β)
    (split : program = bounded v.setup operation (do
      let both ← v.basis zone o
      further both.1 both.2))
    (right : ∀ (h : History) (e : Engine) (r : Registry) (caller : Caller), e.Serves v h free r base →
      free ∨ (e.run caller deadline (further r base)).2 ≠ .error .outOfTime →
      (e.run caller deadline (further r base)).2.map plain = value r)
    (renumbered : value e'.publication.current = value e.publication.current)
    (early : free ∨ InTime v (e.run caller deadline program).2 (e'.run caller' deadline program).2) :
    (e'.run caller' deadline program).2.map plain = (e.run caller deadline program).2.map plain := by
  obtain ⟨h, serves⟩ := footing.serves
  obtain ⟨h', serves'⟩ := footing.serves'
  subst split
  simp only [InTime, run_bounded, run_bind, footing.begun, footing.begun'] at early ⊢
  have first := right h _ _ caller (serves_beside serves (basis_beside v zone o caller deadline e))
    (early.imp_right fun both => (settled_in_time both.1).2)
  have second := right h' _ _ caller' (serves_beside serves' (basis_beside v zone o caller' deadline e'))
    (early.imp_right fun both => (settled_in_time both.2).2)
  exact settled_map (second.trans (renumbered.trans first.symm))

-- Where there is no snapshot, nothing is looked up.
theorem on_basis_alike (footing : Footing v free zone o base caller caller' deadline e e')
    (look : Registry → NamedSnapshot → Serve (Outcome α)) (value : Registry → NamedSnapshot → Outcome α)
    (split : program = bounded v.setup operation (v.onBasis zone o look))
    (right : ∀ (h : History) (e : Engine) (r : Registry) (s : NamedSnapshot) (caller : Caller),
      e.Serves v h free r (.ok s) → free ∨ (e.run caller deadline (look r s)).2 ≠ .error .outOfTime →
      (e.run caller deadline (look r s)).2.map plain = (value r s).map plain)
    (renumbered : ∀ s, (value e'.publication.current s).map plain = (value e.publication.current s).map plain)
    (early : free ∨ InTime v (e.run caller deadline program).2 (e'.run caller' deadline program).2) :
    (e'.run caller' deadline program).2.map plain = (e.run caller deadline program).2.map plain := by
  refine program_alike footing (fun r base => lookOn (look r) base) (fun r => (base.bind (value r)).map plain) split ?_ ?_
    early
  · intro h e r caller serves early
    cases base with
    | error halt => rfl
    | ok s => exact right h e r s caller serves early
  · cases base with
    | error halt => rfl
    | ok s => exact renumbered s

end

theorem run_point (setup : Setup) (r : Registry) (horizon : Nat) (s : NamedSnapshot) :
    (e.run caller deadline (lookPoint setup zone horizon r s)).2 =
      (e.run caller deadline (resolve setup r zone horizon s)).2.map (·.prediction) := by
  unfold lookPoint
  rw [run_bind]
  cases (e.run caller deadline (resolve setup r zone horizon s)).2 <;> rfl

theorem run_finish_status (zone : String) (caller : Caller) (deadline : Option Nat) (described : ZoneStatus)
    (forecast : Outcome Cached) (e : Engine) :
    ∃ last, (e.run caller deadline (Service.finishStatus zone described forecast)).2 =
      Service.statusFrom described last (forecast.map (·.prediction)) := by
  match forecast with
  | .ok c => exact ⟨_, rfl⟩
  | .error (.failed f) => exact ⟨_, rfl⟩
  | .error .pastCalendar => exact ⟨none, rfl⟩
  | .error .outOfTime => exact ⟨none, rfl⟩

section

variable {free : Prop} {base : Outcome NamedSnapshot} (footing : Footing v free zone o base caller caller' deadline e e')
  (flat : v.setup.catalog.Flat)

include footing flat

theorem forecasts_alike (horizon : Nat)
    (early : free ∨ InTime v (e.run caller deadline (v.predict zone horizon o)).2
      (e'.run caller' deadline (v.predict zone horizon o)).2) :
    (e'.run caller' deadline (v.predict zone horizon o)).2.map Prediction.plain =
      (e.run caller deadline (v.predict zone horizon o)).2.map Prediction.plain := by
  refine on_basis_alike footing (lookPoint v.setup zone horizon) (fun r s => uncached v.setup r zone horizon s ⟨0, 0⟩)
    (predict_on_basis zone horizon o) ?_ (fun s => uncached_renumbered footing.zones horizon) early
  intro h e r s caller serves early
  rw [run_point] at early ⊢
  have agree : Agree ((e.run caller deadline (resolve v.setup r zone horizon s)).2.map (·.prediction))
      (uncached v.setup r zone horizon s ⟨0, 0⟩) :=
    resolve_right serves flat caller deadline (early.imp_right early_map.mp) ⟨0, 0⟩
  exact map_through (fun p q => plain_undated) agree

theorem series_alike (horizons : List Nat)
    (early : free ∨ InTime v (e.run caller deadline (v.trend zone horizons o)).2
      (e'.run caller' deadline (v.trend zone horizons o)).2) :
    (e'.run caller' deadline (v.trend zone horizons o)).2.map (·.map Prediction.plain) =
      (e.run caller deadline (v.trend zone horizons o)).2.map (·.map Prediction.plain) := by
  refine on_basis_alike footing _ (fun r s => uncachedSeries v.setup r zone s ⟨0, 0⟩ horizons)
    (trend_on_basis zone horizons o) ?_ (fun s => series_renumbered footing.zones horizons) early
  intro h e r s caller serves early
  exact map_through (fun ps qs => plain_all_undated) (series_right serves flat caller deadline early ⟨0, 0⟩)

end

-- A status is had of a description and of a forecast, whatever there is instead of either.
theorem statuses_alike {free : Prop} {base : Outcome NamedSnapshot}
    (footing : Footing v free zone {} base caller caller' deadline e e') (flat : v.setup.catalog.Flat)
    (early : free ∨ InTime v (e.run caller deadline (v.status zone)).2 (e'.run caller' deadline (v.status zone)).2) :
    (e'.run caller' deadline (v.status zone)).2.map ZoneStatus.plain =
      (e.run caller deadline (v.status zone)).2.map ZoneStatus.plain := by
  refine program_alike footing (lookStatus v zone) (fun r => (uncachedStatus v.setup r zone base ⟨0, 0⟩).map ZoneStatus.plain)
    (Service.status_on_basis v zone) ?_ (status_renumbered footing.zones base) early
  intro h e r caller serves early
  unfold uncachedStatus
  unfold lookStatus at early ⊢
  cases described : describe v.setup.catalog r zone with
  | error f => rfl
  | ok d =>
      simp only [described, run_bind] at early ⊢
      obtain ⟨last, finished⟩ := run_finish_status zone caller deadline d
        (e.run caller deadline (v.forecastOf zone r base)).2 (e.run caller deadline (v.forecastOf zone r base)).1
      rw [finished] at early ⊢
      refine status_plain d d.generation ?_
      cases base with
      | error halt => rfl
      | ok s =>
          have inTime := early.imp_right status_early
          have agree : Agree
              ((e.run caller deadline (resolve v.setup r zone v.setup.settings.statusHorizon s)).2.map (·.prediction))
              (uncached v.setup r zone v.setup.settings.statusHorizon s ⟨0, 0⟩) :=
            resolve_right serves flat caller deadline (inTime.imp_right early_map.mp) ⟨0, 0⟩
          exact map_through (fun p q => plain_undated) agree

end Engine

namespace World

variable {v : Service} {first : Registry} {w : World}

-- No request is under way.
def AtRest (w : World) : Prop := ∀ f ∈ w.flights, f.dropped = true ∨ ∃ value, f.rest = .done value

-- A request that is done has left every slot, and one that was given up holds none.
theorem at_rest_unlocked (reachable : Reachable v first w) (rest : w.AtRest) : w.engine.cache.Unlocked := by
  refine Cache.orderly_kept (reachable_locked reachable).orderly rfl (fun o id => ⟨False.elim, ?_⟩) ?_
  · rintro ⟨i, f, there, _, live, computing⟩
    rcases rest f (flight_mem there) with dropped | ⟨value, done⟩
    · rw [live] at dropped
      cases dropped
    · rw [flight_done (reachable_flat reachable) ((reachable_sound reachable).flights f (flight_mem there)) done]
        at computing
      cases computing
  · rintro o id ⟨i, f, there, _, live, next, seeks⟩
    rcases rest f (flight_mem there) with dropped | ⟨value, done⟩
    · rw [live] at dropped
      cases dropped
    · rw [done] at seeks
      cases seeks

-- No other text was named by the token of the snapshot that a request would go on with at that time.
def Apart (v : Service) (w : World) (clock : Clock) (budget : Option Span) (zone : String) (o : Options) : Prop :=
  ∀ s, ((w.engine.clocked clock).serve ⟨budget, v.basis zone o⟩).2.2 = .ok s →
    ∀ s' ∈ w.history.named, s'.snapshot.token = s.snapshot.token →
      s'.snapshot.canonicalText = s.snapshot.canonicalText

-- The history with one more registry and the snapshot that a request goes on with. Both requests, before and after, are
-- looked at within it.
def toCome (w : World) (r : Registry) (base : Outcome NamedSnapshot) : History :=
  { w.history with published := w.history.published ++ [r], named := w.history.named ++ base.toOption.toList }

section

variable {r : Registry} {base : Outcome NamedSnapshot} {e : Engine}

theorem mem_base {s : NamedSnapshot} : s ∈ base.toOption.toList ↔ base = .ok s := by
  cases base <;> simp [Except.toOption, eq_comm]

theorem to_come_grows : (e.ledger w.history).Grows (e.ledger (w.toCome r base)) :=
  ⟨fun _ _ found => found, List.subset_append_left _ _, List.subset_append_left _ _⟩

theorem to_come_distinct (reachable : Reachable v first w) (counted : w.Counted first) (separate : w.Separate)
    (number : r.generation = w.engine.publication.next)
    (apart : ∀ s, base = .ok s → ∀ s' ∈ w.history.named, s'.snapshot.token = s.snapshot.token →
      s'.snapshot.canonicalText = s.snapshot.canonicalText) :
    (e.ledger (w.toCome r base)).Distinct where
  registries a served a' served' same := by
    have numbered := reachable_numbered reachable counted
    have below : ∀ a ∈ w.history.published, a.generation ≠ r.generation := fun a served =>
      Nat.ne_of_lt (number ▸ published_below numbered served)
    rcases List.mem_append.mp served with old | new <;> rcases List.mem_append.mp served' with old' | new'
    · exact numbered_once numbered old old' same
    · cases List.mem_singleton.mp new'
      exact absurd same (below a old)
    · cases List.mem_singleton.mp new
      exact absurd same.symm (below a' old')
    · rw [List.mem_singleton.mp new, List.mem_singleton.mp new']
  tokens s known s' known' same := by
    have tokens : s.snapshot.token = s'.snapshot.token := by rw [← known.2, ← known'.2, same]
    rcases List.mem_append.mp known.1 with old | new <;> rcases List.mem_append.mp known'.1 with old' | new'
    · exact separate s old s' old' tokens
    · exact apart s' (mem_base.mp new') s old tokens
    · exact (apart s (mem_base.mp new) s' old' tokens.symm).symm
    · cases (mem_base.mp new).symm.trans (mem_base.mp new')
      rfl

theorem to_come_serves {free : Prop} {served : Registry} (sound : e.cache.Sound ((e.ledger w.history).Made v.setup))
    (unlocked : free → e.cache.Unlocked) (distinct : (e.ledger (w.toCome r base)).Distinct)
    (genuine : ∀ s, base = .ok s → s.token = s.snapshot.token) (there : served ∈ (w.toCome r base).published) :
    e.Serves v (w.toCome r base) free served base where
  served := there
  known s same := ⟨List.mem_append_right _ (mem_base.mpr same), genuine s same⟩
  distinct := distinct
  sound := Cache.sound_weaken sound fun _ _ made => Ledger.made_grows to_come_grows made
  unlocked := unlocked

end

-- The cache has the same slots, and finds no more of them.
theorem retain_unlocked {c : Cache} (n : Nat) (unlocked : c.Unlocked) : (c.retain n).Unlocked :=
  Cache.orderly_kept unlocked rfl (fun _ _ => .rfl) fun _ _ => id

-- A request that comes after a reload goes on as it would have before.
theorem footing_reloaded (reachable : Reachable v first w) (counted : w.Counted first) (separate : w.Separate)
    {e' : Engine} {loaded : Registry} (number : loaded.generation = w.engine.publication.next)
    (zones : loaded.zones = w.engine.publication.current.zones) (rereads : w.engine.Rereads e' loaded) {clock : Clock}
    {budget : Option Span} {zone : String} {o : Options} (apart : Apart v w clock budget zone o) :
    ∃ base, Engine.Footing v w.AtRest zone o base w.engine.callers e'.callers
      (budget.map fun b => clock.millis + b.millisAbove)
      (w.engine.clocked clock).receive.1 (e'.clocked clock).receive.1 := by
  have sound := (reachable_sound reachable).engine
  have alike : (w.engine.clocked clock).receive.1.Alike (e'.clocked clock).receive.1 :=
    ⟨⟨rereads.captures, rereads.source, rereads.files, rfl⟩, (congrArg Registry.zones rereads.current).trans zones⟩
  obtain ⟨base, begun, begun'⟩ := Engine.basis_same alike v zone o w.engine.callers e'.callers
    (budget.map fun b => clock.millis + b.millisAbove)
  have based : ((w.engine.clocked clock).serve ⟨budget, v.basis zone o⟩).2.2 = base := congrArg Prod.snd begun
  have genuine : ∀ s, base = .ok s → s.token = s.snapshot.token := by
    rintro s rfl
    have there : (w.engine.clocked clock).receive.1.Sound v.setup w.history :=
      ⟨sound.cache, sound.captures, sound.serving⟩
    exact Engine.basis_genuine there begun
  have distinct : ∀ e : Engine, (e.ledger (w.toCome loaded base)).Distinct := fun _ =>
    to_come_distinct reachable counted separate number fun s same => apart s (based.trans same)
  refine ⟨base, begun, begun', ⟨w.toCome loaded base, ?_⟩, ⟨w.toCome loaded base, ?_⟩, alike.zones⟩
  · exact to_come_serves sound.cache (at_rest_unlocked reachable) (distinct _) genuine
      (List.mem_append_left _ sound.serving)
  · have cache : (e'.clocked clock).receive.1.cache = w.engine.cache.retain loaded.generation := rereads.cache
    refine to_come_serves ?_ (fun rest => ?_) (distinct _) genuine (List.mem_append_right _ ?_)
    · simp only [Engine.ledger, cache]
      exact Cache.retain_sound _ sound.cache
    · rw [cache]
      exact retain_unlocked _ (at_rest_unlocked reachable rest)
    · exact List.mem_singleton.mpr rereads.current

end World

open World in
/-- Models that have not changed since they were read are read again. A forecast, a trend and a status are answered as
they would have been before, with a value or an error, but for the number of the registry and the times; the zones are
listed alike. That other requests are under way, so that a slot may have to be waited for, counts only for those that
are given up for want of time. -/
theorem reload_neutral {v : Service} {first : Registry} {w : World} (reachable : Reachable v first w)
    (counted : w.Counted first) (separate : w.Separate) {files : Files} {root : Path} {generation : Nat}
    (read : Registry.ofDirectory files root generation = .ok w.engine.publication.current)
    (unchanged : UnchangedUnder root files w.engine.files) {e' : Engine} {caller : Caller} {deadline : Option Nat}
    {report : ReloadReport} (reloaded : w.engine.run caller deadline Service.reload = (e', .ok report))
    (clock : Clock) (budget : Option Span) :
    (∀ zone horizon o, Apart v w clock budget zone o →
      w.AtRest ∨ Engine.InTime v ((w.engine.clocked clock).serve ⟨budget, v.predict zone horizon o⟩).2
        ((e'.clocked clock).serve ⟨budget, v.predict zone horizon o⟩).2 →
      ((e'.clocked clock).serve ⟨budget, v.predict zone horizon o⟩).2.map Prediction.plain =
        ((w.engine.clocked clock).serve ⟨budget, v.predict zone horizon o⟩).2.map Prediction.plain) ∧
    (∀ zone horizons o, Apart v w clock budget zone o →
      w.AtRest ∨ Engine.InTime v ((w.engine.clocked clock).serve ⟨budget, v.trend zone horizons o⟩).2
        ((e'.clocked clock).serve ⟨budget, v.trend zone horizons o⟩).2 →
      ((e'.clocked clock).serve ⟨budget, v.trend zone horizons o⟩).2.map (·.map Prediction.plain) =
        ((w.engine.clocked clock).serve ⟨budget, v.trend zone horizons o⟩).2.map (·.map Prediction.plain)) ∧
    (∀ zone, Apart v w clock budget zone {} →
      w.AtRest ∨ Engine.InTime v ((w.engine.clocked clock).serve ⟨budget, v.status zone⟩).2
        ((e'.clocked clock).serve ⟨budget, v.status zone⟩).2 →
      ((e'.clocked clock).serve ⟨budget, v.status zone⟩).2.map ZoneStatus.plain =
        ((w.engine.clocked clock).serve ⟨budget, v.status zone⟩).2.map ZoneStatus.plain) ∧
    ((e'.clocked clock).serve ⟨budget, v.zones⟩).2 = ((w.engine.clocked clock).serve ⟨budget, v.zones⟩).2 := by
  have flat := reachable_flat reachable
  obtain ⟨_, loaded, _, rooted, again, rereads, _⟩ := Engine.reload_served reloaded
  obtain ⟨entries, _, current⟩ := directory_listed read
  obtain rfl : root = _ := Option.some.inj ((congrArg Registry.root current).symm.trans rooted)
  have zones : loaded.zones = w.engine.publication.current.zones := directory_again unchanged read again
  have number : loaded.generation = w.engine.publication.next := Engine.directory_generation again
  refine ⟨fun zone horizon o apart early => ?_, fun zone horizons o apart early => ?_, fun zone apart early => ?_, ?_⟩
  · obtain ⟨base, footing⟩ := footing_reloaded reachable counted separate number zones rereads apart
    rw [Engine.serve_run, Engine.serve_run] at early ⊢
    exact Engine.forecasts_alike footing flat horizon early
  · obtain ⟨base, footing⟩ := footing_reloaded reachable counted separate number zones rereads apart
    rw [Engine.serve_run, Engine.serve_run] at early ⊢
    exact Engine.series_alike footing flat horizons early
  · obtain ⟨base, footing⟩ := footing_reloaded reachable counted separate number zones rereads apart
    rw [Engine.serve_run, Engine.serve_run] at early ⊢
    exact Engine.statuses_alike footing flat early
  · have served : ∀ e : Engine, (e.serve ⟨budget, v.zones⟩).2 = zoneSummaries v.setup.catalog e.publication.current :=
      fun _ => rfl
    rw [served, served]
    refine summaries_renumbered ?_ v.setup.catalog
    exact (congrArg Registry.zones rereads.current).trans zones

theorem files_reachable {v : Service} {first : Registry} {w : World} (reachable : Reachable v first w) (files : Files) :
    Reachable v first { w with engine := { w.engine with files := files } } :=
  .further reachable (.outside w files w.engine.source w.engine.clock w.engine.journal (Nat.le_refl _))

namespace Sample

/-! A model that is read from files, and read again after a forecast, from a directory that is listed in another order
and has one more file in it. -/

def sidecar : Json :=
  .record [("schema_version", .nat 1), ("model_version", .str "1"), ("zone", .str "SCE"), ("variant", .str "enhanced"),
    ("features", .array [.record [("name", .str "temperature_f")]]),
    ("horizon", .record [("min_hours", .nat 1), ("max_hours", .nat 48)]), ("residuals", .record [("std_mw", .nat 100)])]

def artifact : Json :=
  .record [("format", .str LinearArtifact.knownFormat), ("intercept", .nat 17000), ("coefficients", .array [.nat 30])]

def modelFolder : List (FileName × Files) :=
  [(.text "enhanced_model_current.json", .file (Text.toBytes artifact.text)),
    (.text "enhanced_model_current.meta.json", .file (Text.toBytes sidecar.text))]

def servedEntries : List (FileName × Files) := [(.text "SCE", .folder modelFolder), (.text "PGAE", .folder [])]

def relistedEntries : List (FileName × Files) :=
  [(.text "README.md", .file []), (.text "PGAE", .folder []), (.text "SCE", .folder modelFolder)]

def directoryOf (entries : List (FileName × Files)) : Files := .folder [(.text "models", .folder entries)]

theorem directory_of_listed (entries : List (FileName × Files)) :
    (directoryOf entries).list? modelRoot = .ok entries := by
  simp only [Files.list?, Files.locate?, model_root_sound]
  rfl

def servedRegistry : Registry := { generation := 1, root := some modelRoot, zones := zonesOf modelRoot servedEntries }

@[irreducible] def deployed : Running :=
  (launch ⟨{}, groups⟩ servedRegistry source (directoryOf servedEntries) { wall := morning }).toOption.getD default

@[irreducible] def asked : World :=
  (World.first servedRegistry deployed.engine).play deployed.service (opening (.predict "SCE" 24 {}))

def redeployed : World := { asked with engine := { asked.engine with files := directoryOf relistedEntries } }

def isOver (f : Flight) : Bool :=
  f.dropped || match f.rest with
    | .done _ => true
    | .ask _ _ => false

def evening : Clock := { wall := ⟨morning.seconds + 36000, 0⟩, instant := 60000000000 }

theorem redeployed_evaluated :
    (redeployed.history.numbers = [] ∧ redeployed.history.published.length = 1 ∧
      redeployed.flights.all isOver = true ∧ redeployed.engine.reloading = none) ∧
    (∀ s ∈ redeployed.history.named, s.snapshot = snapshot morning) ∧
    (∀ o ∈ [pinned, {}], ((redeployed.engine.clocked evening).serve
      ⟨none, deployed.service.basis "SCE" o⟩).2.2.toOption.all (fun s => s.snapshot = snapshot morning) = true) ∧
    ((redeployed.engine.clocked evening).serve ⟨none, deployed.service.predict "SCE" 24 pinned⟩).2.toBool = true := by
  decide +kernel

theorem redeployed_reachable : Reachable deployed.service servedRegistry redeployed := by
  obtain ⟨_, _, accepted, _, valid, _⟩ := evaluated
  have started : launch ⟨{}, groups⟩ servedRegistry source (directoryOf servedEntries) { wall := morning } =
      .ok deployed := by
    unfold deployed
    exact launch_valid valid
  have begun : Reachable deployed.service servedRegistry asked := by
    unfold asked
    exact play_reachable (.launched accepted started) _
  exact files_reachable begun _

theorem redeployed_counted : redeployed.Counted servedRegistry := by
  obtain ⟨⟨none, _⟩, _⟩ := redeployed_evaluated
  rw [World.Counted, none]
  decide

theorem redeployed_current : redeployed.engine.publication.current = servedRegistry := by
  obtain ⟨⟨_, one, _⟩, _⟩ := redeployed_evaluated
  obtain ⟨later, split, _⟩ := (reachable_numbered redeployed_reachable redeployed_counted).servers
  have last := (reachable_succession redeployed_reachable redeployed_counted).last
  obtain rfl : later = [] := by simpa [split] using one
  rw [split] at last
  exact (Option.some.inj last).symm

theorem relisted_unchanged : UnchangedUnder modelRoot (directoryOf servedEntries) (directoryOf relistedEntries) := by
  intro entries entries' listed listed'
  obtain rfl := Except.ok.inj ((directory_of_listed _).symm.trans listed)
  obtain rfl := Except.ok.inj ((directory_of_listed _).symm.trans listed')
  refine ⟨by decide, by decide, fun zone => ?_, fun zone below below' member member' => ?_⟩
  · simp [servedEntries, relistedEntries, or_comm]
  · have same : below = below' := by
      simp [servedEntries, relistedEntries] at member member'
      rcases member with ⟨rfl, rfl⟩ | ⟨rfl, rfl⟩ <;> simp_all
    exact same ▸ ⟨rfl, fun _ _ => rfl⟩

theorem models_redeployed :
    ∃ e report p q, redeployed.engine.run 0 none Service.reload = (e, .ok report) ∧
      ((redeployed.engine.clocked evening).serve ⟨none, deployed.service.predict "SCE" 24 pinned⟩).2 = .ok p ∧
      ((e.clocked evening).serve ⟨none, deployed.service.predict "SCE" 24 pinned⟩).2 = .ok q ∧ q.plain = p.plain ∧
      ((e.clocked evening).serve ⟨none, deployed.service.status "SCE"⟩).2.map ZoneStatus.plain =
        ((redeployed.engine.clocked evening).serve ⟨none, deployed.service.status "SCE"⟩).2.map ZoneStatus.plain ∧
      ((e.clocked evening).serve ⟨none, deployed.service.zones⟩).2 =
        ((redeployed.engine.clocked evening).serve ⟨none, deployed.service.zones⟩).2 := by
  obtain ⟨⟨_, _, finished, free⟩, named, based, gives⟩ := redeployed_evaluated
  have read : Registry.ofDirectory (directoryOf servedEntries) modelRoot 1 =
      .ok redeployed.engine.publication.current := by
    rw [redeployed_current]
    exact directory_loaded (directory_of_listed _) 1
  have rooted : redeployed.engine.publication.current.root = some modelRoot := by
    rw [redeployed_current]
    rfl
  have again : Registry.ofDirectory redeployed.engine.files modelRoot redeployed.engine.publication.next = .ok _ :=
    directory_loaded (directory_of_listed relistedEntries) _
  obtain ⟨e, report, reloaded⟩ : ∃ e report, redeployed.engine.run 0 none Service.reload = (e, .ok report) :=
    ⟨_, _, Prod.ext rfl (Engine.reload_read 0 none free rooted again).2⟩
  have apart : ∀ o ∈ [pinned, {}], World.Apart deployed.service redeployed evening none "SCE" o := by
    intro o listed s begun s' member _
    have based := based o listed
    rw [begun] at based
    rw [named s' member]
    exact congrArg Snapshot.canonicalText (of_decide_eq_true based).symm
  have rest : redeployed.AtRest := by
    intro f member
    have done := List.all_eq_true.mp finished f member
    unfold isOver at done
    cases rest : f.rest with
    | done value => exact .inr ⟨value, rfl⟩
    | ask question next => exact .inl (by simpa [rest] using done)
  obtain ⟨point, _, status, zones⟩ := reload_neutral redeployed_reachable redeployed_counted (separate_once named) read
    relisted_unchanged reloaded evening none
  obtain ⟨p, before⟩ := ok_of_to_bool gives
  have same := point "SCE" 24 pinned (apart pinned (by simp)) (.inl rest)
  rw [before] at same
  cases after : ((e.clocked evening).serve ⟨none, deployed.service.predict "SCE" 24 pinned⟩).2 with
  | error halt =>
      rw [after] at same
      cases same
  | ok q =>
      rw [after] at same
      exact ⟨e, report, p, q, reloaded, before, after, Except.ok.inj same,
        status "SCE" (apart {} (by simp)) (.inl rest), zones⟩

end Sample

end GridLoad
