import GridLoad.Proofs.Serving.Driven
import GridLoad.Proofs.Serving.Findings
import GridLoad.Proofs.Serving.Redeployed

/-!
What is heard of the source in the course of one operation, and of the registry in the course of a reload. Nothing else
that a service does touches its health.
-/

set_option autoImplicit false

namespace GridLoad

open Program
open GridLoad.Time (Span)

-- What leaves the findings and the registry that is served as they are.
def Question.Mute : Question → Prop
  | .act (.find _ _) => False
  | .act (.publish _) => False
  | .act .generation => False
  | _ => True

theorem capture_mute (q : Question) (kind : q.OfCapture) : q.Mute := by
  unfold Question.OfCapture at kind
  split at kind <;> first | exact trivial | exact absurd kind id

theorem current_mute (q : Question) (kind : q.OfCurrent) : q.Mute := capture_mute q (q.current_capture kind)

theorem lookup_mute (q : Question) (kind : q.OfLookup) : q.Mute := by
  unfold Question.OfLookup at kind
  split at kind <;> first | exact trivial | exact absurd kind id

theorem aside_mute (q : Question) (kind : q.Aside) : q.Mute := by
  unfold Question.Aside at kind
  split at kind <;> first | exact trivial | exact absurd kind id

namespace Engine

-- The findings and the registry that is served are the same.
structure Steady (e e' : Engine) : Prop where
  health : e'.health = e.health
  publication : e'.publication = e.publication

section

variable {e e' e'' : Engine} {caller : Caller} {deadline : Option Nat} {α : Type}

theorem steady_trans (first : e.Steady e') (second : e'.Steady e'') : e.Steady e'' :=
  ⟨second.health.trans first.health, second.publication.trans first.publication⟩

theorem steady_lasting : Lasting Steady where
  trans := steady_trans
  clocked _ _ := ⟨rfl, rfl⟩
  ended e id := by
    unfold endRefresh
    dsimp only
    split <;> exact ⟨rfl, rfl⟩

theorem perform_steady {a : Act} (mute : (Question.act a).Mute) (e : Engine) : e.Steady (e.perform a).1 := by
  cases a with
  | find | publish | generation => exact absurd mute id
  | look =>
      obtain ⟨_, _, same⟩ := look_apart e
      rw [same]
      exact ⟨rfl, rfl⟩
  | _ => exact ⟨rfl, rfl⟩

theorem attempt_steady (e : Engine) (caller : Caller) (w : Wait) : e.Steady (e.attempt caller w).1 := by
  obtain ⟨_, _, same⟩ := attempt_apart e caller w
  rw [same]
  exact ⟨rfl, rfl⟩

theorem give_up_steady (e : Engine) (caller : Caller) (w : Wait) : e.Steady (e.giveUp caller w) := by
  obtain ⟨_, same⟩ := give_up_apart e caller w
  rw [same]
  exact ⟨rfl, rfl⟩

theorem run_steady {p : Serve α} (caller : Caller) (deadline : Option Nat) (mute : Asks Question.Mute p) (e : Engine) :
    e.Steady (e.run caller deadline p).1 :=
  lasting_run steady_lasting (fun _ mute e => perform_steady mute e)
    (fun w _ e => ⟨attempt_steady e caller w, give_up_steady e caller w⟩) mute e

end

end Engine

-- The findings before and after a look for a snapshot, of which this was found.
def Health.Hears (found : Option Finding) (h h' : Health) : Prop :=
  match found with
  | none => h' = h
  | some f => ∃ second, h' = h.update Component.featureSource.name { f with checkedAt := second }

namespace Engine

structure Heard (found : Option Finding) (e e' : Engine) : Prop where
  hears : e.health.Hears found e'.health
  publication : e'.publication = e.publication

-- What a look at the current snapshot comes to.
def lookup (v : Service) (caller : Caller) (deadline : Option Nat) (e : Engine) : Outcome ServedSnapshot :=
  (e.run caller deadline (currentSnapshot v.setup.settings.captureRules v.sourceName)).2

section

variable {e e' e'' : Engine} {caller : Caller} {deadline : Option Nat} {α : Type} {found : Option Finding} {v : Service}
  {zone : String} {o : Options}

theorem heard_nothing (steady : e.Steady e') : Heard none e e' := ⟨steady.health, steady.publication⟩

theorem heard_after (steady : e.Steady e') (heard : Heard found e' e'') : Heard found e e'' where
  hears := steady.health ▸ heard.hears
  publication := heard.publication.trans steady.publication

theorem heard_before (heard : Heard found e e') (steady : e'.Steady e'') : Heard found e e'' where
  hears := by
    rw [steady.health]
    exact heard.hears
  publication := steady.publication.trans heard.publication

theorem current_heard (v : Service) (caller : Caller) (deadline : Option Nat) (e : Engine) :
    Heard (sourceFinding (e.lookup v caller deadline)) e
      (e.run caller deadline (baseSnapshot v.setup v.sourceName none)).1 := by
  have looked : e.Steady (e.run caller deadline (currentSnapshot v.setup.settings.captureRules v.sourceName)).1 :=
    run_steady caller deadline (asks_weaken (asks_current_snapshot _ _) current_mute) e
  unfold baseSnapshot lookup
  rw [run_bind]
  generalize e.run caller deadline (currentSnapshot v.setup.settings.captureRules v.sourceName) = reached at looked ⊢
  obtain ⟨e', out⟩ := reached
  dsimp only at looked ⊢
  cases sourceFinding out with
  | none => exact heard_nothing looked
  | some finding => exact heard_after looked ⟨⟨_, rfl⟩, rfl⟩

-- What follows the look says no more of the source.
theorem snapshot_heard (v : Service) (zone : String) (o : Options) (caller : Caller) (deadline : Option Nat) (e : Engine) :
    Heard (if o.snapshot = none then sourceFinding (e.lookup v caller deadline) else none) e
      (e.run caller deadline (snapshotFor v.setup v.sourceName zone o)).1 := by
  unfold snapshotFor
  rw [run_bind]
  refine heard_before ?_ (run_steady caller deadline ?_ _)
  · cases given : o.snapshot with
    | none => exact current_heard v caller deadline e
    | some token =>
        rw [if_neg (by simp)]
        exact heard_nothing (run_steady caller deadline (asks_weaken (asks_pinned_snapshot token) capture_mute) e)
  · split
    · exact asks_pure _
    · refine asks_bind (asks_weaken (asks_check_freshness _ _) current_mute) fun checked => ?_
      cases checked with
      | error halt => exact asks_pure _
      | ok _ => exact asks_bind (asks_weaken (asks_derive_snapshot _ _ _) current_mute) fun _ => asks_pure _

-- What is found of the source where a request begins: nothing if its snapshot is given, or if it asks for a zone that
-- is not there.
def begun (v : Service) (zone : String) (o : Options) (caller : Caller) (deadline : Option Nat) (e : Engine) :
    Option Finding :=
  if o.snapshot = none ∧ isKnown v.setup.catalog e.publication.current zone = true then
    sourceFinding (e.tick.lookup v caller deadline)
  else none

theorem basis_heard (v : Service) (zone : String) (o : Options) (caller : Caller) (deadline : Option Nat) (e : Engine) :
    Heard (e.begun v zone o caller deadline) e (e.run caller deadline (v.basis zone o)).1 := by
  have ticked : e.Steady e.tick := ⟨rfl, rfl⟩
  unfold begun
  cases known : isKnown v.setup.catalog e.publication.current zone with
  | false =>
      rw [basis_unknown known, if_neg (by simp)]
      exact heard_nothing ticked
  | true =>
      rw [basis_known known]
      have heard := heard_after ticked (snapshot_heard v zone o caller deadline e.tick)
      simpa only [and_true] using heard

theorem bounded_mute {operation : String} {setup : Setup} (out : Outcome α) :
    Asks Question.Mute (bounded setup operation (pure out)) := by
  match out with
  | .ok value => exact asks_act trivial fun _ => asks_pure _
  | .error .pastCalendar => exact asks_pure _
  | .error (.failed f) => exact asks_act trivial fun _ => asks_act trivial fun _ => asks_pure _
  | .error .outOfTime => exact asks_act trivial fun _ => asks_act trivial fun _ => asks_pure _

theorem bounded_heard {operation : String} {setup : Setup} {body : Serve (Outcome α)}
    (heard : Heard found e (e.run caller deadline body).1) :
    Heard found e (e.run caller deadline (bounded setup operation body)).1 := by
  have split : bounded setup operation body = body >>= fun out => bounded setup operation (pure out) := rfl
  rw [split, run_bind]
  exact heard_before heard (run_steady caller deadline (bounded_mute _) _)

theorem on_basis_heard {further : Registry → NamedSnapshot → Serve (Outcome α)}
    (mute : ∀ r s, Asks Question.Mute (further r s)) :
    Heard (e.begun v zone o caller deadline) e (e.run caller deadline (v.onBasis zone o further)).1 := by
  unfold Service.onBasis
  rw [run_bind]
  refine heard_before (basis_heard v zone o caller deadline e) (run_steady caller deadline ?_ _)
  split
  · exact asks_pure _
  · exact mute _ _

theorem predict_heard (horizon : Nat) : Heard (e.begun v zone o caller deadline) e
    (e.run caller deadline (v.predict zone horizon o)).1 := by
  rw [predict_on_basis]
  refine bounded_heard (on_basis_heard fun r s => ?_)
  refine asks_bind (asks_weaken asks_resolve lookup_mute) fun out => ?_
  cases out with
  | error halt => exact asks_pure _
  | ok c => exact asks_act trivial fun _ => asks_pure _

theorem trend_heard (horizons : List Nat) : Heard (e.begun v zone o caller deadline) e
    (e.run caller deadline (v.trend zone horizons o)).1 := by
  rw [trend_on_basis]
  exact bounded_heard (on_basis_heard fun r s => asks_weaken (asks_series horizons) lookup_mute)

theorem status_heard : Heard (e.begun v zone {} caller deadline) e (e.run caller deadline (v.status zone)).1 := by
  rw [Service.status_on_basis]
  apply bounded_heard
  rw [Service.portrait, run_bind]
  refine heard_before (basis_heard v zone {} caller deadline e) (run_steady caller deadline ?_ _)
  split
  · exact asks_pure _
  · refine asks_bind ?_ fun forecast => ?_
    · unfold Service.forecastOf
      split
      · exact asks_pure _
      · exact asks_weaken asks_resolve lookup_mute
    · cases forecast with
      | ok c => exact asks_act trivial fun _ => asks_act trivial fun _ => asks_pure _
      | error halt =>
          cases halt with
          | failed f => exact asks_act trivial fun _ => asks_pure _
          | pastCalendar => exact asks_pure _
          | outOfTime => exact asks_pure _

-- A registry was announced: it is what is found of the component now.
structure Announced (r : Registry) (e e' : Engine) : Prop where
  finding : ∃ second, e'.health = e.health.update Component.registry.name { r.finding with checkedAt := second }
  publication : e'.publication = e.publication

theorem announced_before {r : Registry} (announced : Announced r e e') (steady : e'.Steady e'') : Announced r e e'' where
  finding := by
    rw [steady.health]
    exact announced.finding
  publication := steady.publication.trans announced.publication

theorem run_find (caller : Caller) (deadline : Option Nat) (c : Component) (f : Finding) (e : Engine) : ∃ second,
    (e.run caller deadline (act (.find c f))).1.health = e.health.update c.name { f with checkedAt := second } :=
  ⟨_, rfl⟩

theorem announce_finds (r : Registry) (caller : Caller) (deadline : Option Nat) (e : Engine) :
    Announced r e (e.run caller deadline (Service.announce r)).1 := by
  have noted : Asks Question.Mute ((Service.rejections r).forM fun event => act (.note event)) :=
    asks_each fun _ => asks_question trivial
  unfold Service.announce
  rw [run_act, run_bind]
  have steady := run_steady caller deadline noted (e.tick.perform (.gauge r)).1
  obtain ⟨second, found⟩ := run_find caller deadline .registry r.finding _
  refine ⟨⟨second, found.trans ?_⟩, steady.publication⟩
  rw [steady.health]
  rfl

-- After a reload another registry is served and found, or all is as it was.
def Rereads? (e e' : Engine) : Prop :=
  (e'.health = e.health ∧ e'.publication.current = e.publication.current) ∨
    ∃ second, e'.health =
      e.health.update Component.registry.name { e'.publication.current.finding with checkedAt := second }

theorem announced_rereads {loaded : Registry} (health : e'.health = e.health)
    (current : e'.publication.current = loaded) {rest : Serve α} (mute : Asks Question.Mute rest) :
    e.Rereads? ((e'.run caller deadline (Service.announce loaded)).1.run caller deadline rest).1 := by
  obtain ⟨⟨second, found⟩, same⟩ :=
    announced_before (announce_finds loaded caller deadline e') (run_steady caller deadline mute _)
  refine .inr ⟨second, ?_⟩
  rw [found, health, same, current]

theorem replace_settles (previous : Registry) (root : Path) (caller : Caller) (deadline : Option Nat) (e : Engine) :
    e.Rereads? (e.run caller deadline (Service.replaceRegistry previous root)).1 := by
  unfold Service.replaceRegistry
  rw [run_act, run_models]
  cases read : Registry.ofDirectory (e.tick.perform .generation).1.files root (e.tick.perform .generation).2 with
  | error reason => exact .inl ⟨rfl, rfl⟩
  | ok loaded =>
      dsimp only
      rw [run_act, run_act, run_act, run_act, run_bind]
      refine @announced_rereads e _ caller deadline _ loaded ?_ ?_ _ ?_
      · rfl
      · rfl
      · exact asks_act trivial fun _ => asks_act trivial fun _ => asks_pure _

theorem rereads_before (settles : e.Rereads? e') (steady : e'.Steady e'') : e.Rereads? e'' := by
  unfold Rereads?
  rw [steady.health, steady.publication]
  exact settles

theorem rereads_after (steady : e.Steady e') (settles : e'.Rereads? e'') : e.Rereads? e'' := by
  unfold Rereads? at settles ⊢
  rw [← steady.health, ← steady.publication]
  exact settles

theorem reload_settles (caller : Caller) (deadline : Option Nat) (e : Engine) :
    e.Rereads? (e.run caller deadline Service.reload).1 := by
  have ticked : e.Steady e.tick := ⟨rfl, rfl⟩
  have turn := steady_trans ticked (lasting_await steady_lasting deadline
    (attempt_steady · caller .reloadTurn) (give_up_steady · caller .reloadTurn) e.tick e.clock.millis)
  unfold Service.reload
  rw [run_wait]
  generalize e.tick.awaitSince caller deadline e.clock.millis .reloadTurn = awaited at turn ⊢
  obtain ⟨e', answer⟩ := awaited
  cases answer with
  | none => exact .inl ⟨turn.health, congrArg _ turn.publication⟩
  | some _ =>
      apply rereads_after turn
      dsimp only
      rw [run_act]
      have ends : ∀ out : Outcome ReloadReport, Asks Question.Mute (act .endReload >>= fun _ => pure out) :=
        fun out => asks_act trivial fun _ => asks_pure _
      cases rooted : (e'.tick.perform .registry).2.root with
      | none => exact .inl ⟨rfl, rfl⟩
      | some root =>
          dsimp only
          rw [run_bind]
          have settles := replace_settles (e'.tick.perform .registry).2 root caller deadline (e'.tick.perform .registry).1
          exact rereads_after ⟨rfl, rfl⟩ (rereads_before settles (run_steady caller deadline (ends _) _))

end

end Engine

end GridLoad
