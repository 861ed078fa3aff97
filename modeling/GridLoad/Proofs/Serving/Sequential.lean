import Mathlib.Logic.Relation
import GridLoad.Proofs.Serving.World

/-!
A request that has the service to itself is one among the ways in which steps can follow each other: what is reached
by serving requests in turn is reached by steps, and so is every answer that is given.
-/

set_option autoImplicit false

namespace GridLoad

open Relation (ReflTransGen)

section

variable {v : Service} {r : Registry} {w : World} {e : Engine}

theorem reachable_steps {w' : World} (reachable : Reachable v r w) (steps : ReflTransGen (Step v) w w') :
    Reachable v r w' := by
  induction steps with
  | refl => exact reachable
  | tail _ step ih => exact .further ih step

-- The engine gets to another state while no request does anything.
def Idles (v : Service) (w : World) (e : Engine) : Prop :=
  ∃ h, ReflTransGen (Step v) w { w with engine := e, history := h }

theorem idles_refl : Idles v w w.engine := ⟨w.history, .refl⟩

theorem idles_trans {e' : Engine} (first : Idles v w e)
    (second : ∀ h, Idles v { w with engine := e, history := h } e') : Idles v w e' := by
  obtain ⟨h, steps⟩ := first
  obtain ⟨h', further⟩ := second h
  exact ⟨h', steps.trans further⟩

theorem idles_outside (clock : Clock) (journal : List Event) (later : w.engine.now ≤ clock.instant) :
    Idles v w { w.engine with clock := clock, journal := journal } :=
  ⟨w.history, .single (.outside w w.engine.files w.engine.source clock journal later)⟩

theorem idles_tick : Idles v w w.engine.tick := idles_outside _ _ (Nat.le_succ _)

theorem idles_end_refresh (id : RefreshId) : Idles v w (w.engine.endRefresh id) := by
  let fetched := w.endFetch id
  let recorded := fetched.withCaptures (fetched.engine.captures.record fetched.engine.now id)
  have first : ReflTransGen (Step v) w recorded := (ReflTransGen.single (.fetched w id)).tail (.recorded fetched id)
  have logged : ∀ journal, Step v recorded
      { recorded with engine := { recorded.engine.tick with journal := journal } } := fun journal =>
    .outside recorded _ _ _ journal (Nat.le_succ _)
  have told : ∀ journal, ReflTransGen (Step v) w
      (World.withCaptures { recorded with engine := { recorded.engine.tick with journal := journal } }
        (recorded.engine.captures.report id)) := fun journal => (first.tail (logged journal)).tail (.reported _ id)
  refine ⟨fetched.history, ?_⟩
  unfold Engine.endRefresh
  simp only
  split
  · exact told _
  · exact told _

theorem idles_fold {γ : Type} (f : Engine → γ → Engine) (each : ∀ w x, Idles v w (f w.engine x)) (xs : List γ)
    (w : World) : Idles v w (xs.foldl f w.engine) := by
  induction xs generalizing w with
  | nil => exact idles_refl
  | cons x xs ih =>
      rw [List.foldl_cons]
      exact idles_trans (each w x) fun h => ih { w with engine := f w.engine x, history := h }

theorem idles_end_refreshes_before (millis : Nat) : Idles v w (w.engine.endRefreshesBefore millis) :=
  idles_fold _ (fun _ _ => idles_end_refresh _) _ w

theorem idles_pass_to (millis : Nat) : Idles v w (w.engine.passTo millis) :=
  idles_trans (idles_end_refreshes_before millis) fun _ => idles_outside _ _ (Nat.le_refl _)

theorem idles_end_refreshes_due : Idles v w w.engine.endRefreshesDue := idles_end_refreshes_before _

end

-- The world with a request further on.
def World.onward (w : World) (i : Nat) (f : Flight) (e : Engine) (h : History) : World :=
  ⟨e, w.flights.set i f, h⟩

-- A request gets this far, and the engine to this state, with nobody else about.
def Lands (v : Service) (w : World) (i : Nat) (e : Engine) (f : Flight) : Prop :=
  ∃ h, ReflTransGen (Step v) w (w.onward i f e h)

section

variable {v : Service} {r : Registry} {w : World} {i : Nat} {e e' : Engine} {f f' : Flight} {caller : Caller} {ask : Ask}
  {t : Transcript}

theorem onward_there (there : w.flights[i]? = some f) (f' : Flight) (e : Engine) (h : History) :
    (w.onward i f' e h).flights[i]? = some f' :=
  List.getElem?_set_self (List.getElem?_eq_some_iff.mp there).1

theorem lands_idles (there : w.flights[i]? = some f) (idles : Idles v w e) : Lands v w i e f := by
  obtain ⟨h, steps⟩ := idles
  refine ⟨h, ?_⟩
  have same : w.flights.set i f = w.flights := by
    obtain ⟨inside, rfl⟩ := List.getElem?_eq_some_iff.mp there
    exact List.set_getElem_self inside
  rwa [World.onward, same]

theorem onward_onward (w : World) (i : Nat) (f f' : Flight) (e e' : Engine) (h h' : History) :
    (w.onward i f e h).onward i f' e' h' = w.onward i f' e' h' := by
  simp only [World.onward, List.set_set]

theorem lands_trans (first : Lands v w i e f) (second : ∀ h, Lands v (w.onward i f e h) i e' f') :
    Lands v w i e' f' := by
  obtain ⟨h, steps⟩ := first
  obtain ⟨h', further⟩ := second h
  rw [onward_onward] at further
  exact ⟨h', steps.trans further⟩

theorem lands_act {a : Act} {next : a.Answer → Serve ask.Answer}
    (there : w.flights[i]? = some ⟨caller, ask, t, .ask (.act a) next, false⟩) :
    Lands v w i (w.engine.perform a).1
      ⟨caller, ask, t ++ [⟨.act a, (w.engine.perform a).2⟩], next (w.engine.perform a).2, false⟩ :=
  ⟨_, .single (.acts there rfl rfl)⟩

variable {awaited : Wait} {next : Option awaited.Answer → Serve ask.Answer}

theorem lands_answered (there : w.flights[i]? = some ⟨caller, ask, t, .ask (.wait awaited) next, false⟩)
    {answer : awaited.Answer} (given : (w.engine.attempt caller awaited).2 = some answer) :
    Lands v w i (w.engine.attempt caller awaited).1
      ⟨caller, ask, t ++ [⟨.wait awaited, some answer⟩], next (some answer), false⟩ :=
  ⟨_, .single (.answered there rfl rfl given)⟩

theorem lands_cut (there : w.flights[i]? = some ⟨caller, ask, t, .ask (.wait awaited) next, false⟩) :
    Lands v w i (w.engine.giveUp caller awaited) ⟨caller, ask, t ++ [⟨.wait awaited, none⟩], next none, false⟩ :=
  ⟨_, .single (.cut there rfl rfl)⟩

theorem idles_waits (there : w.flights[i]? = some ⟨caller, ask, t, .ask (.wait awaited) next, false⟩)
    (pending : (w.engine.attempt caller awaited).2 = none) : Idles v w (w.engine.attempt caller awaited).1 :=
  ⟨w.history, .single (.waits there rfl rfl pending)⟩

-- After time has passed, what was waited for is there, or the wait is given up.
theorem lands_after {e : Engine} (there : w.flights[i]? = some ⟨caller, ask, t, .ask (.wait awaited) next, false⟩)
    (idles : Idles v w e) (keeps : (e.attempt caller awaited).1 = e.giveUp caller awaited) :
    ∃ x, Lands v w i (e.attempt caller awaited).1
      ⟨caller, ask, t ++ [x], next (e.attempt caller awaited).2, false⟩ := by
  cases given : (e.attempt caller awaited).2 with
  | some answer =>
      exact ⟨_, lands_trans (lands_idles there idles) fun h => lands_answered (onward_there there _ _ h) given⟩
  | none =>
      rw [keeps]
      exact ⟨_, lands_trans (lands_idles there idles) fun h => lands_cut (onward_there there _ _ h)⟩

theorem late_patience {deadline : Option Nat} {since : Nat} {id : RefreshId} {patience : Option Time.Span}
    {millis : Nat} (late : e.waitEnd deadline since id patience = .late millis) : ∃ p, patience = some p := by
  cases patience with
  | some p => exact ⟨p, rfl⟩
  | none =>
      simp only [Engine.waitEnd, Option.map_none] at late
      split at late
      · cases late
      · split at late <;> simp_all

theorem lands_await (there : w.flights[i]? = some ⟨caller, ask, t, .ask (.wait awaited) next, false⟩)
    (deadline : Option Nat) (since : Nat) :
    ∃ x, Lands v w i (w.engine.awaitSince caller deadline since awaited).1
      ⟨caller, ask, t ++ [x], next (w.engine.awaitSince caller deadline since awaited).2, false⟩ := by
  unfold Engine.awaitSince
  split
  · rename_i e answer given
    have engine : (w.engine.attempt caller awaited).1 = e := by rw [given]
    rw [← engine]
    exact ⟨_, lands_answered there (by rw [given])⟩
  · rename_i e given
    have waits : Idles v w e := by
      have steps := idles_waits (v := v) there (by rw [given])
      rwa [given] at steps
    have passes : ∀ millis, Idles v w (e.passTo millis) := fun millis =>
      idles_trans waits fun h => idles_pass_to millis
    split
    · rename_i id patience _
      split
      · rename_i millis _
        refine lands_after there ?_ rfl
        exact idles_trans (passes millis) fun h => idles_end_refresh id
      · rename_i millis late
        obtain ⟨p, rfl⟩ := late_patience late
        refine ⟨⟨.wait (.refreshed id (some p)), some .late⟩, lands_trans (lands_idles there (passes millis)) ?_⟩
        exact fun h => ⟨_, .single (.late (onward_there there _ _ h) rfl rfl)⟩
      · rename_i millis _
        exact ⟨_, lands_trans (lands_idles there (passes millis)) fun h => lands_cut (onward_there there _ _ h)⟩
    · exact ⟨_, lands_trans (lands_idles there (passes _)) fun h => lands_cut (onward_there there _ _ h)⟩

theorem lands_further {g : Transcript → Flight} (first : Lands v w i e f)
    (second : ∀ h, ∃ t', Lands v (w.onward i f e h) i e' (g t')) : ∃ t', Lands v w i e' (g t') := by
  obtain ⟨h, steps⟩ := first
  obtain ⟨t', h', further⟩ := second h
  rw [onward_onward] at further
  exact ⟨t', h', steps.trans further⟩

-- A program that is run to its end gets there by steps.
theorem lands_run (deadline : Option Nat) (program : Serve ask.Answer) {w : World} {t : Transcript}
    (there : w.flights[i]? = some ⟨caller, ask, t, program, false⟩) :
    ∃ t', Lands v w i (w.engine.run caller deadline program).1
      ⟨caller, ask, t', .done (w.engine.run caller deadline program).2, false⟩ := by
  induction program generalizing w t with
  | done value => exact ⟨t, lands_idles there idles_refl⟩
  | ask question next ih =>
      refine lands_further (lands_idles there idles_tick) fun h => ?_
      have ticked := onward_there there ⟨caller, ask, t, .ask question next, false⟩ w.engine.tick h
      cases question with
      | act a =>
          refine lands_further (lands_act ticked) fun h' => ?_
          exact ih _ (onward_there ticked _ _ h')
      | wait awaited =>
          obtain ⟨x, waits⟩ := lands_await ticked deadline w.engine.clock.millis
          refine lands_further waits fun h' => ?_
          exact ih _ (onward_there ticked _ _ h')

end

section

variable {v : Service} {r : Registry} {w : World}

-- A request that is served alone is answered in a world that steps lead to.
theorem serve_reachable (reachable : Reachable v r w) (budget : Option Time.Span) (ask : Ask) :
    ∃ w' t, Reachable v r w' ∧ w'.engine = (w.engine.serve ⟨budget, ask.program v⟩).1 ∧
      w'.flights = w.flights ++
        [⟨w.engine.callers, ask, t, .done (w.engine.serve ⟨budget, ask.program v⟩).2, false⟩] := by
  have there : (w.arrive v ask).flights[w.flights.length]? =
      some ⟨w.engine.callers, ask, [], ask.program v, false⟩ := by
    simp [World.arrive, Engine.receive]
  obtain ⟨t, runs⟩ := lands_run (v := v) (budget.map fun b => w.engine.clock.millis + b.millisAbove)
    (ask.program v) there
  have served : Lands v (w.arrive v ask) w.flights.length (w.engine.serve ⟨budget, ask.program v⟩).1
      ⟨w.engine.callers, ask, t, .done (w.engine.serve ⟨budget, ask.program v⟩).2, false⟩ :=
    lands_trans runs fun h => lands_idles (onward_there there _ _ h) (idles_end_refreshes_due (w := World.onward ..))
  obtain ⟨h, steps⟩ := served
  refine ⟨_, t, reachable_steps (.further reachable (.arrives w ask)) steps, rfl, ?_⟩
  simp [World.onward, World.arrive, Engine.receive]

end

end GridLoad
