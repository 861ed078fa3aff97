import GridLoad.Proofs.Serving.Conducted
import GridLoad.Proofs.Serving.EngineSteps

/-!
What holds of a service at every moment: its state is sound, and every request under way has followed its program
with answers that are vouched for.
-/

set_option autoImplicit false

namespace GridLoad

open Program

namespace Flight

structure Sound (v : Service) (Γ : Ledger) (f : Flight) : Prop where
  led : Leads (f.ask.program v) f.transcript f.rest
  vouched : ∀ x ∈ f.transcript, Γ.Vouches v.setup x.question x.answer

variable {v : Service} {Γ Δ : Ledger} {f : Flight}

theorem sound_grows (sound : f.Sound v Γ) (grows : Γ.Grows Δ) : f.Sound v Δ :=
  ⟨sound.led, fun x member => Ledger.vouches_grows grows (sound.vouched x member)⟩

theorem sound_further {q : Question} {next : q.Answer → Serve f.ask.Answer} {answer : q.Answer}
    (sound : f.Sound v Γ) (turn : f.rest = .ask q next) (vouched : Γ.Vouches v.setup q answer) :
    (f.goOn ⟨q, answer⟩ (next answer)).Sound v Γ where
  led := leads_snoc (turn ▸ sound.led) answer
  vouched x member := by
    rcases List.mem_append.mp member with before | last
    · exact sound.vouched x before
    · cases List.mem_singleton.mp last
      exact vouched

-- A question is allowed when it is put, for the programs keep to what they are to.
theorem sound_allowed {q : Question} {next : q.Answer → Serve f.ask.Answer} (flat : v.setup.catalog.Flat)
    (sound : f.Sound v Γ) (turn : f.rest = .ask q next) : Γ.Allows v.setup f.transcript q := by
  have conducted : Meets (Γ.conduct v.setup) (fun _ _ => True) (f.ask.program v) [] := meets_ask flat f.ask
  have met := meets_leads conducted sound.led sound.vouched
  rw [turn] at met
  exact met.1

end Flight

namespace World

structure Sound (v : Service) (w : World) : Prop where
  engine : w.engine.Sound v.setup w.history
  flights : ∀ f ∈ w.flights, f.Sound v w.ledger

variable {v : Service} {w w' : World} {i : Nat} {f : Flight}

theorem flight_mem (there : w.flights[i]? = some f) : f ∈ w.flights := List.mem_of_getElem? there

-- The flights stay as they are while the engine goes on.
theorem sound_passes {e : Engine} {h : History} (sound : w.Sound v)
    (passes : Engine.Passes v.setup w.history h w.engine e) :
    ({ w with engine := e, history := h } : World).Sound v :=
  ⟨passes.sound, fun f member => Flight.sound_grows (sound.flights f member) passes.grows⟩

theorem sound_exchange {e : Engine} {q : Question} {next : q.Answer → Serve f.ask.Answer} {answer : q.Answer}
    (sound : w.Sound v) (there : w.flights[i]? = some f) (turn : f.rest = .ask q next)
    (passes : Engine.Passes v.setup w.history (w.history.after ⟨q, answer⟩) w.engine e)
    (vouched : (e.ledger (w.history.after ⟨q, answer⟩)).Vouches v.setup q answer) :
    (w.exchange i f e ⟨q, answer⟩ (next answer)).Sound v := by
  have grown : ∀ f ∈ w.flights, f.Sound v (e.ledger (w.history.after ⟨q, answer⟩)) :=
    fun f member => Flight.sound_grows (sound.flights f member) passes.grows
  refine ⟨passes.sound, fun g member => ?_⟩
  rcases List.mem_or_eq_of_mem_set member with before | rfl
  · exact grown g before
  · exact Flight.sound_further (grown f (flight_mem there)) turn vouched

theorem drop_sound (sound : w.Sound v) (there : w.flights[i]? = some f) : (w.drop i f).Sound v := by
  have passes := Engine.abandon_passes f.caller sound.engine
  refine ⟨passes.sound, fun g member => ?_⟩
  rcases List.mem_or_eq_of_mem_set member with before | rfl
  · exact Flight.sound_grows (sound.flights g before) passes.grows
  · have kept := Flight.sound_grows (sound.flights f (flight_mem there)) passes.grows
    exact ⟨kept.led, kept.vouched⟩

theorem arrive_sound (ask : Ask) (sound : w.Sound v) : (w.arrive v ask).Sound v := by
  have passes : Engine.Passes v.setup w.history w.history w.engine w.engine.receive.1 :=
    Engine.passes_beside sound.engine rfl rfl rfl
  refine ⟨passes.sound, fun g member => ?_⟩
  rcases List.mem_append.mp member with before | last
  · exact Flight.sound_grows (sound.flights g before) passes.grows
  · cases List.mem_singleton.mp last
    exact ⟨.here _, fun x none => nomatch none⟩

theorem step_sound (flat : v.setup.catalog.Flat) (sound : w.Sound v) (step : Step v w w') : w'.Sound v := by
  cases step with
  | arrives ask => exact arrive_sound ask sound
  | acts there live turn =>
      have allowed := Flight.sound_allowed flat (sound.flights _ (flight_mem there)) turn
      obtain ⟨passes, vouched⟩ := Engine.perform_passes sound.engine allowed
      exact sound_exchange sound there turn passes vouched
  | @answered i f wait next answer there live turn given =>
      have passes := Engine.attempt_passes f.caller wait sound.engine
      exact sound_exchange sound there turn passes (Engine.attempt_vouched sound.engine given)
  | waits there live turn pending => exact sound_passes sound (Engine.attempt_passes _ _ sound.engine)
  | late there live turn => exact sound_exchange sound there turn (Engine.passes_refl sound.engine) trivial
  | @cut i f wait next there live turn =>
      have passes := Engine.give_up_passes f.caller wait sound.engine
      refine sound_exchange sound there turn passes ?_
      cases wait <;> trivial
  | drops there live => exact drop_sound sound there
  | fetched id => exact sound_passes (w := w) sound (Engine.end_fetch_passes id sound.engine)
  | recorded id => exact sound_passes (w := w) sound (Engine.record_passes id sound.engine)
  | reported id => exact sound_passes (w := w) sound (Engine.report_passes id sound.engine)
  | outside files source clock journal later =>
      exact sound_passes sound (Engine.passes_beside sound.engine rfl rfl rfl)

end World

-- What nothing that is said of a service before its first request touches.
structure Engine.Untouched (e e' : Engine) : Prop where
  cache : e'.cache = e.cache
  captures : e'.captures = e.captures
  publication : e'.publication = e.publication
  callers : e'.callers = e.callers
  files : e'.files = e.files
  source : e'.source = e.source

namespace Engine

variable {α : Type} {caller : Caller} {deadline : Option Nat}

theorem untouched_trans {e e' e'' : Engine} (first : e.Untouched e') (second : e'.Untouched e'') : e.Untouched e'' :=
  ⟨second.cache.trans first.cache, second.captures.trans first.captures, second.publication.trans first.publication,
    second.callers.trans first.callers, second.files.trans first.files, second.source.trans first.source⟩

def Quiet (a : Act) : Prop := ∀ e : Engine, e.Untouched (e.perform a).1

def quietly : Conduct Question.Answer := ⟨fun _ _ => True, fun _ q => ∃ a, q = .act a ∧ Quiet a⟩

theorem run_untouched {p : Serve α} {post : Transcript → α → Prop} {t : Transcript} (met : Meets quietly post p t)
    (e : Engine) : e.Untouched (e.run caller deadline p).1 := by
  induction p generalizing e t with
  | done value => exact ⟨rfl, rfl, rfl, rfl, rfl, rfl⟩
  | ask q next ih =>
      obtain ⟨⟨a, rfl, quiet⟩, further⟩ := met
      have ticked : e.Untouched e.tick := ⟨rfl, rfl, rfl, rfl, rfl, rfl⟩
      exact untouched_trans (untouched_trans ticked (quiet e.tick)) (ih _ (further _ trivial) _)

theorem found_quiet (t : Transcript) (c : Component) (f : Finding) : quietly.guarantee t (.act (.find c f)) :=
  ⟨_, rfl, fun _ => ⟨rfl, rfl, rfl, rfl, rfl, rfl⟩⟩

theorem announce_quiet (r : Registry) (t : Transcript) : Meets quietly (fun _ _ => True) (Service.announce r) t := by
  refine meets_announce r (fun t => ?_) (fun t event => ?_) found_quiet t
  · exact ⟨_, rfl, fun _ => ⟨rfl, rfl, rfl, rfl, rfl, rfl⟩⟩
  · exact ⟨_, rfl, fun _ => ⟨rfl, rfl, rfl, rfl, rfl, rfl⟩⟩

theorem introduction_quiet (r : Registry) : Meets quietly (fun _ _ => True) (introduction r) [] :=
  meets_first (found_quiet _ _ _) fun _ _ => meets_first (found_quiet _ _ _) fun _ _ => announce_quiet r _

theorem end_refreshes_none {e : Engine} (none : e.captures.refreshes = []) : e.endRefreshesDue = e := by
  simp [endRefreshesDue, endRefreshesBefore, Captures.fetching, none]

theorem introduced (e : Engine) (r : Registry) (none : e.captures.refreshes = []) :
    e.receive.1.Untouched (e.serve ⟨Option.none, introduction r⟩).1 := by
  have untouched : e.receive.1.Untouched (e.receive.1.run e.receive.2 Option.none (introduction r)).1 :=
    run_untouched (introduction_quiet r) e.receive.1
  have still : (e.receive.1.run e.receive.2 Option.none (introduction r)).1.captures.refreshes = [] := by
    rw [untouched.captures]
    exact none
  have same : (e.serve ⟨Option.none, introduction r⟩).1 =
      (e.receive.1.run e.receive.2 Option.none (introduction r)).1 := end_refreshes_none still
  rw [same]
  exact untouched

end Engine

structure Begins (setup : Setup) (r : Registry) (running : Running) : Prop where
  same : running.service.setup = setup
  cache : running.engine.cache = { limits := setup.settings.cache }
  captures : running.engine.captures = { rules := setup.settings.captureRules }
  publication : running.engine.publication = .first r

theorem launch_begins {setup : Setup} {r : Registry} {source : Source} {files : Files} {clock : Clock}
    {running : Running} (started : launch setup r source files clock = .ok running) : Begins setup r running := by
  unfold launch at started
  split at started
  · cases started
  · cases started
    have untouched := Engine.introduced
      { files := files, publication := .first r, cache := { limits := setup.settings.cache }, source := source,
        captures := { rules := setup.settings.captureRules }, clock := clock } r rfl
    exact ⟨rfl, untouched.cache, untouched.captures, untouched.publication⟩

theorem begins_sound {setup : Setup} {r : Registry} {running : Running} (begins : Begins setup r running) :
    (World.first r running.engine).Sound running.service := by
  refine ⟨⟨?_, ?_, ?_⟩, fun f none => nomatch none⟩
  · rw [World.first, begins.cache]
    exact Cache.sound_empty _
  · rw [World.first, begins.captures]
    exact Captures.sound_start _
  · rw [World.first, begins.publication]
    exact List.mem_singleton_self r

variable {v : Service} {r : Registry} {w : World}

theorem reachable_flat (reachable : Reachable v r w) : v.setup.catalog.Flat := by
  induction reachable with
  | launched accepted started =>
      rw [(launch_begins started).same]
      exact Catalog.define_flat accepted
  | further _ _ ih => exact ih

theorem reachable_sound (reachable : Reachable v r w) : w.Sound v := by
  induction reachable with
  | launched accepted started => exact begins_sound (launch_begins started)
  | further before step ih => exact World.step_sound (reachable_flat before) ih step

end GridLoad
