import GridLoad.Proofs.Serving.Driven
import GridLoad.Proofs.Serving.Mirrored
import GridLoad.Proofs.Serving.Schedule

/-!
The weights that constituents are declared with decide nothing. Two services that differ in nothing else go the same way,
step by step and request by request, and what they answer differs in the weights that are shown.
-/

set_option autoImplicit false

namespace GridLoad

open GridLoad.Time (Span Timestamp)

def Wait.shed : (w : Wait) → Option w.Answer → Option w.Answer
  | .enter _, entered => entered.map Entered.unweighted
  | .refreshed _ _, awaited => awaited
  | .reloadTurn, turn => turn
  | .models _ _, loaded => loaded

namespace Engine

def unweighted (e : Engine) : Engine := { e with cache := e.cache.unweighted }

variable {e e' : Engine}

theorem unweighted_engine_look : e.unweighted.look = (e.look.1.unweighted, e.look.2) := by
  obtain ⟨files, publication, cache, source, captures, health, tally, journal, clock, reloading, callers⟩ := e
  simp only [look, joinRefresh, unweighted, now]
  cases captures.fresh? clock.instant with
  | some s => rfl
  | none =>
      cases captures.live? with
      | some id => rfl
      | none => rfl

theorem unweighted_perform {a : Act} (plain : (Question.act a).Plain) :
    e.unweighted.perform a = ((e.perform a).1.unweighted, (e.perform a).2) := by
  cases a with
  | slot key =>
      have slot : e.cache.unweighted.slotFor e.now key = _ := unweighted_slot_for key
      change ({ e with cache := (e.cache.unweighted.slotFor e.now key).1 }, (e.cache.unweighted.slotFor e.now key).2) = _
      rw [slot]
      rfl
  | leave id computed => exact absurd trivial plain
  | look => exact unweighted_engine_look
  | purgeCache =>
      have purged : e.cache.unweighted.purge e.now = (e.cache.purge e.now).unweighted := unweighted_purge
      change ({ e with cache := e.cache.unweighted.purge e.now },
        e.cache.size - (e.cache.unweighted.purge e.now).size) = _
      rw [purged]
      rfl
  | _ => rfl

theorem unweighted_perform_leave (id : SlotId) (computed : Option Prediction) :
    (e.unweighted.perform (.leave id (computed.map Prediction.unweighted))).1 =
      (e.perform (.leave id computed)).1.unweighted := by
  have left : e.cache.unweighted.leave e.now id (computed.map Prediction.unweighted) =
      (e.cache.leave e.now id computed).unweighted := unweighted_leave computed
  change { e with cache := e.cache.unweighted.leave e.now id (computed.map Prediction.unweighted) } = _
  rw [left]
  rfl

theorem unweighted_attempt (e : Engine) (caller : Caller) (w : Wait) :
    e.unweighted.attempt caller w = ((e.attempt caller w).1.unweighted, w.shed (e.attempt caller w).2) := by
  cases w with
  | enter id =>
      obtain ⟨files, publication, cache, source, captures, health, tally, journal, clock, reloading, callers⟩ := e
      simp only [attempt, unweighted, now, unweighted_enter]
      cases (cache.enter clock.instant caller id).2 <;> rfl
  | reloadTurn =>
      change (if e.reloading.isNone then _ else _) = _
      unfold attempt
      by_cases free : e.reloading.isNone
      · rw [if_pos free, if_pos free]
        rfl
      · rw [if_neg free, if_neg free]
        rfl
  | refreshed id patience => rfl
  | models root generation => rfl

theorem unweighted_give_up (caller : Caller) (w : Wait) : e.unweighted.giveUp caller w = (e.giveUp caller w).unweighted := by
  cases w with
  | enter id =>
      have withdrawn : e.cache.unweighted.withdraw caller id = (e.cache.withdraw caller id).unweighted :=
        unweighted_withdraw
      change { e with cache := e.cache.unweighted.withdraw caller id } = _
      rw [withdrawn]
      rfl
  | _ => rfl

theorem unweighted_end_refresh (id : RefreshId) (e : Engine) :
    e.unweighted.endRefresh id = (e.endRefresh id).unweighted := by
  obtain ⟨files, publication, cache, source, captures, health, tally, journal, clock, reloading, callers⟩ := e
  simp only [endRefresh, unweighted, tick, now]
  split <;> rfl

theorem unweighted_end_refreshes (millis : Nat) :
    e.unweighted.endRefreshesBefore millis = (e.endRefreshesBefore millis).unweighted := by
  change (e.captures.fetching.filter fun f => f.2 < millis).foldl (fun e f => e.endRefresh f.1) e.unweighted = _
  unfold endRefreshesBefore
  generalize (e.captures.fetching.filter fun f => f.2 < millis) = due
  induction due generalizing e with
  | nil => rfl
  | cons f rest ih => rw [List.foldl_cons, List.foldl_cons, unweighted_end_refresh, ih]

theorem unweighted_pass_to (millis : Nat) : e.unweighted.passTo millis = (e.passTo millis).unweighted := by
  simp only [passTo, unweighted_end_refreshes]
  rfl

theorem unweighted_await (e : Engine) (caller : Caller) (deadline : Option Nat) (since : Nat) (w : Wait) :
    e.unweighted.awaitSince caller deadline since w =
      ((e.awaitSince caller deadline since w).1.unweighted, w.shed (e.awaitSince caller deadline since w).2) := by
  have attempted := unweighted_attempt e caller w
  unfold awaitSince
  rw [attempted]
  obtain ⟨e₁, answer⟩ := e.attempt caller w
  cases answer with
  | some answer => cases w <;> rfl
  | none =>
      cases w with
      | refreshed id patience =>
          have ends : e₁.unweighted.waitEnd deadline since id patience = e₁.waitEnd deadline since id patience := rfl
          simp only [Wait.shed, ends, unweighted_pass_to, unweighted_end_refresh, unweighted_attempt]
          cases e₁.waitEnd deadline since id patience <;> rfl
      | _ =>
          change ((e₁.unweighted.passTo (deadline.getD e₁.clock.millis)).giveUp caller _, none) = _
          rw [unweighted_pass_to, unweighted_give_up]
          rfl

section Alike

variable (same : e.unweighted = e'.unweighted)

include same

theorem perform_alike {a : Act} (plain : (Question.act a).Plain) :
    (e.perform a).1.unweighted = (e'.perform a).1.unweighted ∧ (e.perform a).2 = (e'.perform a).2 := by
  have both := unweighted_perform (e := e) plain
  rw [same, unweighted_perform plain] at both
  exact ⟨(congrArg Prod.fst both).symm, (congrArg Prod.snd both).symm⟩

theorem perform_leave_alike (id : SlotId) {computed computed' : Option Prediction}
    (values : computed.map Prediction.unweighted = computed'.map Prediction.unweighted) :
    (e.perform (.leave id computed)).1.unweighted = (e'.perform (.leave id computed')).1.unweighted := by
  rw [← unweighted_perform_leave, ← unweighted_perform_leave, same, values]

theorem attempt_alike (caller : Caller) (w : Wait) : (e.attempt caller w).1.unweighted = (e'.attempt caller w).1.unweighted ∧
    w.shed (e.attempt caller w).2 = w.shed (e'.attempt caller w).2 := by
  have both := unweighted_attempt e caller w
  rw [same, unweighted_attempt e' caller w] at both
  exact ⟨(congrArg Prod.fst both).symm, (congrArg Prod.snd both).symm⟩

theorem await_alike (caller : Caller) (deadline : Option Nat) (since : Nat) (w : Wait) :
    (e.awaitSince caller deadline since w).1.unweighted = (e'.awaitSince caller deadline since w).1.unweighted ∧
      w.shed (e.awaitSince caller deadline since w).2 = w.shed (e'.awaitSince caller deadline since w).2 := by
  have both := unweighted_await e caller deadline since w
  rw [same, unweighted_await e' caller deadline since w] at both
  exact ⟨(congrArg Prod.fst both).symm, (congrArg Prod.snd both).symm⟩

theorem give_up_alike (caller : Caller) (w : Wait) : (e.giveUp caller w).unweighted = (e'.giveUp caller w).unweighted := by
  rw [← unweighted_give_up, ← unweighted_give_up, same]

theorem tick_alike : e.tick.unweighted = e'.tick.unweighted := congrArg tick same

-- Programs that mirror each other run alike in states that differ in weights alone.
theorem run_alike {α β : Type} {shed : α → β} {p p' : Serve α} (mirrors : Mirrors shed p p') (caller : Caller)
    (deadline : Option Nat) :
    (e.run caller deadline p).1.unweighted = (e'.run caller deadline p').1.unweighted ∧
      shed (e.run caller deadline p).2 = shed (e'.run caller deadline p').2 := by
  induction mirrors generalizing e e' with
  | done values => exact ⟨same, values⟩
  | @ask q next next' plain _ ih =>
      have ticked := tick_alike same
      cases q with
      | act a =>
          obtain ⟨state, answer⟩ := perform_alike ticked plain
          simp only [run, answer]
          exact ih _ state
      | wait w =>
          have millis : e.clock.millis = e'.clock.millis := congrArg (·.clock.millis) same
          obtain ⟨state, answer⟩ := await_alike ticked caller deadline e.clock.millis w
          have told : (e.tick.awaitSince caller deadline e.clock.millis w).2 =
              (e'.tick.awaitSince caller deadline e.clock.millis w).2 := by
            cases w with
            | enter id => exact absurd trivial plain
            | _ => exact answer
          simp only [run, ← millis, ← told]
          exact ih _ state
  | @enter slot next next' _ ih =>
      have millis : e.clock.millis = e'.clock.millis := congrArg (·.clock.millis) same
      obtain ⟨state, answer⟩ := await_alike (tick_alike same) caller deadline e.clock.millis (.enter slot)
      simp only [run, ← millis]
      exact ih _ _ answer state
  | leave values _ ih => exact ih (perform_leave_alike (tick_alike same) _ values)

theorem end_refreshes_due_alike : e.endRefreshesDue.unweighted = e'.endRefreshesDue.unweighted := by
  have both : ∀ e : Engine, e.unweighted.endRefreshesDue = e.endRefreshesDue.unweighted :=
    fun e => unweighted_end_refreshes _
  rw [← both, ← both, same]

theorem serve_alike {α β : Type} {shed : α → β} {p p' : Serve α} (mirrors : Mirrors shed p p') (budget : Option Span) :
    (e.serve ⟨budget, p⟩).1.unweighted = (e'.serve ⟨budget, p'⟩).1.unweighted ∧
      shed (e.serve ⟨budget, p⟩).2 = shed (e'.serve ⟨budget, p'⟩).2 := by
  have received : e.receive.1.unweighted = e'.receive.1.unweighted := congrArg (fun e => e.receive.1) same
  have callers : e.callers = e'.callers := congrArg (·.callers) same
  have millis : e.clock.millis = e'.clock.millis := congrArg (·.clock.millis) same
  obtain ⟨state, values⟩ :=
    run_alike received mirrors e.callers (budget.map fun b => e.clock.millis + b.millisAbove)
  have limit : (budget.map fun b => e'.clock.millis + b.millisAbove) = budget.map fun b => e.clock.millis + b.millisAbove := by
    rw [millis]
  have second : e'.serve ⟨budget, p'⟩ =
      ((e'.receive.1.run e.callers (budget.map fun b => e.clock.millis + b.millisAbove) p').1.endRefreshesDue,
        (e'.receive.1.run e.callers (budget.map fun b => e.clock.millis + b.millisAbove) p').2) := by
    rw [callers, ← limit]
    rfl
  rw [second]
  exact ⟨end_refreshes_due_alike state, values⟩

theorem pass_alike (millis : Nat) : (e.pass millis).unweighted = (e'.pass millis).unweighted := by
  have both : ∀ e : Engine, (e.passTo (e.clock.millis + millis)).unweighted =
      e.unweighted.passTo (e.unweighted.clock.millis + millis) := fun e => (unweighted_pass_to _).symm
  apply end_refreshes_due_alike
  rw [both, both, same]

theorem sleep_alike (millis : Nat) : (e.sleep millis).unweighted = (e'.sleep millis).unweighted := by
  -- Of a state in its parts, for the kernel would count out a million nanoseconds to compare two clocks.
  have both : ∀ e : Engine, e.unweighted.sleep millis = (e.sleep millis).unweighted := by
    rintro ⟨files, publication, cache, source, captures, health, tally, journal, clock, reloading, callers⟩
    simp only [sleep, unweighted]
  rw [← both, ← both, same]

theorem outside_alike (files : Files) (source : Source) (wall : Timestamp) :
    (e.outside files source wall).unweighted = (e'.outside files source wall).unweighted := by
  have both : ∀ e : Engine, e.unweighted.outside files source wall = (e.outside files source wall).unweighted :=
    fun _ => rfl
  rw [← both, ← both, same]

end Alike

end Engine

def Told.unweighted (told : Told) : Told := ⟨told.1, told.1.unweighted told.2⟩

section Driven

variable {v : Service} {e e' : Engine}

theorem does_alike (same : e.unweighted = e'.unweighted) (deed : Deed) :
    (e.does v deed).1.unweighted = (e'.does v.unweighted deed).1.unweighted ∧
      (e.does v deed).2.map Told.unweighted = (e'.does v.unweighted deed).2.map Told.unweighted := by
  cases deed with
  | serve budget ask =>
      obtain ⟨state, answer⟩ := Engine.serve_alike same (mirrors_ask v ask) budget
      refine ⟨state, ?_⟩
      simp only [Engine.does, Option.map_some, Told.unweighted, answer]
  | pass millis => exact ⟨Engine.pass_alike same millis, rfl⟩
  | sleep millis => exact ⟨Engine.sleep_alike same millis, rfl⟩
  | outside files source wall => exact ⟨Engine.outside_alike same files source wall, rfl⟩

-- Whatever a client does in turn, it is told the same by a service whose catalog carries no weights.
theorem driven_alike (same : e.unweighted = e'.unweighted) (deeds : List Deed) :
    (e.driven v deeds).1.unweighted = (e'.driven v.unweighted deeds).1.unweighted ∧
      (e.driven v deeds).2.map (Option.map Told.unweighted) =
        (e'.driven v.unweighted deeds).2.map (Option.map Told.unweighted) := by
  induction deeds generalizing e e' with
  | nil => exact ⟨same, rfl⟩
  | cons deed rest ih =>
      obtain ⟨state, told⟩ := does_alike (v := v) same deed
      obtain ⟨last, others⟩ := ih state
      exact ⟨last, by simp only [Engine.driven, List.map_cons, told, others]⟩

end Driven

-- A step that anything can make, whether or not it is possible where it is made.
inductive Stroke where
  | move (m : Move)
  -- The patience of a request for a refresh ends.
  | late (i : Nat)
  -- A request is given up.
  | drop (i : Nat)
  | outside (files : Files) (source : Source) (clock : Clock) (journal : List Event)

namespace World

def late (w : World) (i : Nat) (f : Flight) : World :=
  match f.rest with
  | .ask (.wait (.refreshed id (some patience))) next =>
      w.exchange i f w.engine ⟨.wait (.refreshed id (some patience)), some .late⟩ (next (some .late))
  | _ => w

-- What a stroke makes of a world. One that cannot be made changes nothing.
def stroke (v : Service) (w : World) : Stroke → World
  | .move m => w.move v m
  | .late i =>
      match w.flights[i]? with
      | some f => if f.dropped then w else w.late i f
      | none => w
  | .drop i =>
      match w.flights[i]? with
      | some f => if f.dropped then w else w.drop i f
      | none => w
  | .outside files source clock journal =>
      { w with engine := { w.engine with files := files, source := source, clock := clock, journal := journal } }

def strokes (v : Service) (w : World) (all : List Stroke) : World := all.foldl (stroke v) w

end World

-- Every step that a service can make is a stroke.
theorem step_stroke {v : Service} {w w' : World} (step : Step v w w') : ∃ s, w.stroke v s = w' := by
  cases step with
  | arrives ask => exact ⟨.move (.arrive ask), rfl⟩
  | @acts i f a next there live turn =>
      refine ⟨.move (.go i), ?_⟩
      simp only [World.stroke, World.move, there, live, World.go, turn]
      rfl
  | @answered i f awaited next answer there live turn given =>
      refine ⟨.move (.go i), ?_⟩
      simp only [World.stroke, World.move, there, live, World.go, turn, given]
      rfl
  | @waits i f awaited next there live turn pending =>
      refine ⟨.move (.go i), ?_⟩
      simp only [World.stroke, World.move, there, live, World.go, turn, pending]
      rfl
  | @late i f id patience next there live turn =>
      refine ⟨.late i, ?_⟩
      simp only [World.stroke, there, live, World.late, turn]
      rfl
  | @cut i f awaited next there live turn =>
      refine ⟨.move (.cut i), ?_⟩
      simp only [World.stroke, World.move, there, live, World.cut, turn]
      rfl
  | @drops i f there live =>
      refine ⟨.drop i, ?_⟩
      simp only [World.stroke, there, live]
      rfl
  | fetched id => exact ⟨.move (.fetched id), rfl⟩
  | recorded id => exact ⟨.move (.recorded id), rfl⟩
  | reported id => exact ⟨.move (.reported id), rfl⟩
  | outside files source clock journal later => exact ⟨.outside files source clock journal, rfl⟩

-- A request of one service, and the same request of the other as far as that has got.
inductive Flight.Mirrored : Flight → Flight → Prop
  | both {caller : Caller} {ask : Ask} {t t' : Transcript} {rest rest' : Serve ask.Answer} {dropped : Bool}
      (mirrors : Mirrors ask.unweighted rest rest') :
      Flight.Mirrored ⟨caller, ask, t, rest, dropped⟩ ⟨caller, ask, t', rest', dropped⟩

structure World.Mirrored (w w' : World) : Prop where
  engine : w.engine.unweighted = w'.engine.unweighted
  flights : List.Forall₂ Flight.Mirrored w.flights w'.flights

theorem related_at {α β : Type} {R : α → β → Prop} {xs : List α} {ys : List β} (related : List.Forall₂ R xs ys) (i : Nat) :
    xs[i]? = none ∧ ys[i]? = none ∨ ∃ x y, xs[i]? = some x ∧ ys[i]? = some y ∧ R x y := by
  induction related generalizing i with
  | nil => exact .inl ⟨rfl, rfl⟩
  | cons here _ ih =>
      cases i with
      | zero => exact .inr ⟨_, _, rfl, rfl, here⟩
      | succ i => exact ih i

theorem related_set {α β : Type} {R : α → β → Prop} {xs : List α} {ys : List β} {x : α} {y : β}
    (related : List.Forall₂ R xs ys) (i : Nat) (here : R x y) : List.Forall₂ R (xs.set i x) (ys.set i y) := by
  induction related generalizing i with
  | nil => exact .nil
  | cons first others ih =>
      cases i with
      | zero => exact .cons here others
      | succ i => exact .cons first (ih i)

section Strokes

variable {v : Service} {w w' : World} {i : Nat} {f f' : Flight}

theorem unweighted_slot_abandon (caller : Caller) (s : Slot) : s.unweighted.abandon caller = (s.abandon caller).unweighted := by
  change (if s.lock = .held caller ∨ s.lock = .handed caller then _ else _) = _
  unfold Slot.abandon
  by_cases holds : s.lock = .held caller ∨ s.lock = .handed caller
  · rw [if_pos holds, if_pos holds, ← unweighted_release]
    rfl
  · rw [if_neg holds, if_neg holds]
    rfl

theorem unweighted_abandon (caller : Caller) (e : Engine) :
    e.unweighted.abandon caller = (e.abandon caller).unweighted := by
  have slots : (e.cache.slots.map Slot.unweighted).map (Slot.abandon caller) =
      (e.cache.slots.map (Slot.abandon caller)).map Slot.unweighted := by
    rw [List.map_map, List.map_map]
    exact List.map_congr_left fun s _ => unweighted_slot_abandon caller s
  simp only [Engine.abandon, Engine.unweighted, Cache.abandon, Cache.unweighted, slots]
  rfl

section

variable (mirrored : w.Mirrored w') (beside : f.Mirrored f')

include mirrored beside

theorem go_mirrored : (w.go i f).Mirrored (w'.go i f') := by
  cases beside with
  | @both caller ask t t' rest rest' dropped mirrors =>
      have onward : ∀ {e e' : Engine} {x x' : Exchange Question.Answer} {next next' : Serve ask.Answer},
          e.unweighted = e'.unweighted → Mirrors ask.unweighted next next' →
          (w.exchange i ⟨caller, ask, t, rest, dropped⟩ e x next).Mirrored
            (w'.exchange i ⟨caller, ask, t', rest', dropped⟩ e' x' next') := fun same further =>
        ⟨same, related_set mirrored.flights i (.both further)⟩
      cases mirrors with
      | done same => exact mirrored
      | @ask q next next' plain further =>
          cases q with
          | act a =>
              obtain ⟨state, answer⟩ := Engine.perform_alike mirrored.engine plain
              have goes : Mirrors ask.unweighted (next (w.engine.perform a).2) (next' (w'.engine.perform a).2) := by
                rw [answer]
                exact further _
              exact onward state goes
          | wait awaited =>
              obtain ⟨state, told⟩ := Engine.attempt_alike mirrored.engine caller awaited
              have answer : (w.engine.attempt caller awaited).2 = (w'.engine.attempt caller awaited).2 := by
                cases awaited with
                | enter id => exact absurd trivial plain
                | _ => exact told
              simp only [World.go, answer]
              cases (w'.engine.attempt caller awaited).2 with
              | some answer => exact onward state (further _)
              | none => exact ⟨state, mirrored.flights⟩
      | @enter slot next next' further =>
          obtain ⟨state, told⟩ := Engine.attempt_alike mirrored.engine caller (.enter slot)
          change Option.map Entered.unweighted _ = Option.map Entered.unweighted _ at told
          simp only [World.go]
          cases given : (w.engine.attempt caller (.enter slot)).2 with
          | some answer =>
              cases given' : (w'.engine.attempt caller (.enter slot)).2 with
              | some answer' =>
                  rw [given, given'] at told
                  exact onward state (further _ _ told)
              | none =>
                  rw [given, given'] at told
                  cases told
          | none =>
              cases given' : (w'.engine.attempt caller (.enter slot)).2 with
              | some answer' =>
                  rw [given, given'] at told
                  cases told
              | none => exact ⟨state, mirrored.flights⟩
      | leave same further => exact onward (Engine.perform_leave_alike mirrored.engine _ same) further

theorem cut_mirrored : (w.cut i f).Mirrored (w'.cut i f') := by
  cases beside with
  | @both caller ask t t' rest rest' dropped mirrors =>
      cases mirrors with
      | done same => exact mirrored
      | @ask q next next' plain further =>
          cases q with
          | act a => exact mirrored
          | wait awaited =>
              exact ⟨Engine.give_up_alike mirrored.engine caller awaited,
                related_set mirrored.flights i (.both (further none))⟩
      | @enter slot next next' further =>
          exact ⟨Engine.give_up_alike mirrored.engine caller (.enter slot),
            related_set mirrored.flights i (.both (further none none rfl))⟩
      | leave same further => exact mirrored

theorem late_mirrored : (w.late i f).Mirrored (w'.late i f') := by
  cases beside with
  | @both caller ask t t' rest rest' dropped mirrors =>
      cases mirrors with
      | done same => exact mirrored
      | @ask q next next' plain further =>
          match q with
          | .act a => exact mirrored
          | .wait (.refreshed id (some patience)) =>
              exact ⟨mirrored.engine, related_set mirrored.flights i (.both (further (some .late)))⟩
          | .wait (.refreshed id none) => exact mirrored
          | .wait (.enter slot) => exact mirrored
          | .wait .reloadTurn => exact mirrored
          | .wait (.models root generation) => exact mirrored
      | enter further => exact mirrored
      | leave same further => exact mirrored

theorem drop_mirrored : (w.drop i f).Mirrored (w'.drop i f') := by
  cases beside with
  | @both caller ask t t' rest rest' dropped mirrors =>
      refine ⟨?_, related_set mirrored.flights i (.both mirrors)⟩
      change (w.engine.abandon caller).unweighted = (w'.engine.abandon caller).unweighted
      rw [← unweighted_abandon, ← unweighted_abandon, mirrored.engine]

end

-- What is done with one request is done with the same request of the other service.
theorem flight_mirrored {g : World → Flight → World} (mirrored : w.Mirrored w')
    (each : ∀ {f f' : Flight}, f.Mirrored f' → (g w f).Mirrored (g w' f')) :
    (match w.flights[i]? with
      | some f => if f.dropped then w else g w f
      | none => w).Mirrored
      (match w'.flights[i]? with
        | some f => if f.dropped then w' else g w' f
        | none => w') := by
  obtain ⟨here, there⟩ | ⟨f, f', here, there, beside⟩ := related_at mirrored.flights i
  · rw [here, there]
    exact mirrored
  · rw [here, there]
    have dropped : f'.dropped = f.dropped := by
      cases beside
      rfl
    simp only [dropped]
    by_cases gone : f.dropped
    · rw [if_pos gone, if_pos gone]
      exact mirrored
    · rw [if_neg gone, if_neg gone]
      exact each beside

theorem stroke_mirrored (mirrored : w.Mirrored w') (s : Stroke) :
    (w.stroke v s).Mirrored (w'.stroke v.unweighted s) := by
  have state := mirrored.engine
  have kept : ∀ {h h' : History} {e e' : Engine}, e.unweighted = e'.unweighted →
      (⟨e, w.flights, h⟩ : World).Mirrored ⟨e', w'.flights, h'⟩ := fun same => ⟨same, mirrored.flights⟩
  cases s with
  | move m =>
      cases m with
      | arrive ask =>
          have callers : w.engine.callers = w'.engine.callers := congrArg (·.callers) state
          refine ⟨congrArg (fun e => e.receive.1) state, ?_⟩
          simp only [World.stroke, World.move, World.arrive, Engine.receive, callers]
          exact List.rel_append mirrored.flights (.cons (.both (mirrors_ask v ask)) .nil)
      | go i => exact flight_mirrored (g := fun w f => w.go i f) mirrored (go_mirrored mirrored)
      | cut i => exact flight_mirrored (g := fun w f => w.cut i f) mirrored (cut_mirrored mirrored)
      | fetched id =>
          exact kept (congrArg (fun e => { e with captures := e.captures.endFetch e.now id }) state)
      | recorded id =>
          exact kept (congrArg (fun e => { e with captures := e.captures.record e.now id }) state)
      | reported id =>
          exact kept (congrArg (fun e => { e with captures := e.captures.report id }) state)
      | pass nanos wall =>
          exact kept (congrArg (fun e : Engine =>
            { e with clock := ⟨e.clock.instant + nanos, e.clock.millis, wall⟩ }) state)
  | late i => exact flight_mirrored (g := fun w f => w.late i f) mirrored (late_mirrored mirrored)
  | drop i => exact flight_mirrored (g := fun w f => w.drop i f) mirrored (drop_mirrored mirrored)
  | outside files source clock journal =>
      exact kept (congrArg (fun e : Engine =>
        { e with files := files, source := source, clock := clock, journal := journal }) state)

-- However requests of many clients go on beside each other, they go on alike.
theorem strokes_mirrored (mirrored : w.Mirrored w') (all : List Stroke) :
    (w.strokes v all).Mirrored (w'.strokes v.unweighted all) := by
  unfold World.strokes
  induction all generalizing w w' with
  | nil => exact mirrored
  | cons s rest ih => exact ih (stroke_mirrored mirrored s)

end Strokes

-- What a request has come to, once it has.
def Flight.told? (f : Flight) : Option Told :=
  match f.rest with
  | .done value => some ⟨f.ask, value⟩
  | .ask _ _ => none

-- What is told of requests, and the states that they leave, differ in the weights that forecasts carry along.
structure SameButWeights (told told' : List (Option Told)) (e e' : Engine) : Prop where
  told : told.map (Option.map Told.unweighted) = told'.map (Option.map Told.unweighted)
  health : e.health = e'.health
  state : e.unweighted = e'.unweighted

theorem same_but_weights_trans {told told' told'' : List (Option Told)} {e e' e'' : Engine}
    (first : SameButWeights told told' e e') (second : SameButWeights told'' told' e'' e') :
    SameButWeights told told'' e e'' :=
  ⟨first.told.trans second.told.symm, first.health.trans second.health.symm, first.state.trans second.state.symm⟩

theorem flight_told {f f' : Flight} (mirrored : f.Mirrored f') :
    f.told?.map Told.unweighted = f'.told?.map Told.unweighted := by
  cases mirrored with
  | both mirrors =>
      cases mirrors with
      | done same => exact congrArg (fun answer => some (Sigma.mk _ answer)) same
      | ask plain further => rfl
      | enter further => rfl
      | leave same further => rfl

theorem mirrored_told {w w' : World} (mirrored : w.Mirrored w') :
    SameButWeights (w.flights.map Flight.told?) (w'.flights.map Flight.told?) w.engine w'.engine := by
  obtain ⟨state, flights⟩ := mirrored
  refine ⟨?_, congrArg (·.health) state, state⟩
  generalize w.flights = requests at flights
  generalize w'.flights = requests' at flights
  induction flights with
  | nil => rfl
  | cons here _ ih => simp only [List.map_cons, flight_told here, ih]

-- A launch reads the settings alone.
theorem launch_other {setup setup' : Setup} {r : Registry} {source : Source} {files : Files} {clock : Clock}
    (settings : setup.settings = setup'.settings) : launch setup' r source files clock =
      (launch setup r source files clock).map fun running =>
        { running with service := { running.service with setup := setup' } } := by
  unfold launch
  rw [settings]
  cases setup'.settings.validate <;> rfl

/-- The weights of constituents decide nothing: two services whose catalogs differ in them alone, and that are started
alike, go alike, whatever a client does in turn and however the requests of many clients go on beside each other. -/
theorem weights_decide_nothing {setup setup' : Setup} {r : Registry} {source : Source} {files : Files} {clock : Clock}
    (settings : setup.settings = setup'.settings) (catalogs : setup.catalog.unweighted = setup'.catalog.unweighted) :
    (∀ failure, launch setup r source files clock = .error failure ↔
      launch setup' r source files clock = .error failure) ∧
    ∀ running running', launch setup r source files clock = .ok running →
      launch setup' r source files clock = .ok running' →
      (∀ deeds, SameButWeights
        (running.engine.driven running.service deeds).2 (running'.engine.driven running'.service deeds).2
        (running.engine.driven running.service deeds).1 (running'.engine.driven running'.service deeds).1) ∧
      ∀ all, SameButWeights
        (((World.first r running.engine).strokes running.service all).flights.map Flight.told?)
        (((World.first r running'.engine).strokes running'.service all).flights.map Flight.told?)
        ((World.first r running.engine).strokes running.service all).engine
        ((World.first r running'.engine).strokes running'.service all).engine := by
  have other : launch setup' r source files clock = _ := launch_other settings
  cases launched : launch setup r source files clock with
  | error failure =>
      rw [other, launched]
      exact ⟨fun _ => Iff.rfl, fun _ _ started => nomatch started⟩
  | ok running =>
      rw [other, launched]
      refine ⟨fun _ => ⟨fun failed => (nomatch failed), fun failed => (nomatch failed)⟩, ?_⟩
      rintro _ _ ⟨⟩ ⟨⟩
      -- Both are compared with the one service whose catalog carries no weights.
      have plain : ({ running.service with setup := setup' } : Service).unweighted = running.service.unweighted := by
        simp only [Service.unweighted, (launch_begins launched).same, Setup.unweighted, settings, catalogs]
      constructor
      · intro deeds
        obtain ⟨state, told⟩ := driven_alike (v := running.service) (e := running.engine) rfl deeds
        obtain ⟨state', told'⟩ := driven_alike (v := { running.service with setup := setup' }) (e := running.engine) rfl deeds
        rw [plain] at state' told'
        exact same_but_weights_trans ⟨told, congrArg (·.health) state, state⟩
          ⟨told', congrArg (·.health) state', state'⟩
      · intro all
        have first : (World.first r running.engine).Mirrored (World.first r running.engine) := ⟨rfl, .nil⟩
        have mirrored := strokes_mirrored (v := running.service) first all
        have mirrored' := strokes_mirrored (v := { running.service with setup := setup' }) first all
        rw [plain] at mirrored'
        exact same_but_weights_trans (mirrored_told mirrored) (mirrored_told mirrored')

namespace Sample

/-! The virtual zone of the worked example with one constituent that counts for nothing by its weight, and another
that counts for more than there is. -/

def reweighted : Group := ⟨"LA_METRO", [⟨"SCE", 0⟩, ⟨"SP15", 1e30⟩]⟩

def reweightedGroups : Catalog := (Catalog.define [reweighted]).toOption.getD {}

@[irreducible] def reweightedRunning : Running :=
  (launch ⟨{}, reweightedGroups⟩ (registry 1) source .empty { wall := morning }).toOption.getD default

-- The weights that an answer shows.
def shownWeights : Option Told → List Float
  | some ⟨.predict .., .ok p⟩ =>
      match p.source with
      | .models .. => []
      | .members _ shares => shares.map (·.declaredWeight)
  | _ => []

def askedTwice : List Deed := List.replicate 2 (.serve none (.predict "LA_METRO" 24 {}))

theorem reweighted_evaluated :
    (Catalog.define [reweighted] = .ok reweightedGroups ∧ groups.unweighted = reweightedGroups.unweighted) ∧
      ((running {} morning).engine.driven (running {} morning).service askedTwice).2.map shownWeights =
        [[0.79, 0.21], [0.79, 0.21]] ∧
      (reweightedRunning.engine.driven reweightedRunning.service askedTwice).2.map shownWeights =
        [[0, 1e30], [0, 1e30]] := by decide +kernel

theorem reweighted_alike :
    (groups.unweighted = reweightedGroups.unweighted ∧
      launch ⟨{}, groups⟩ (registry 1) source .empty { wall := morning } = .ok (running {} morning) ∧
      launch ⟨{}, reweightedGroups⟩ (registry 1) source .empty { wall := morning } = .ok reweightedRunning) ∧
    ∀ deeds, SameButWeights ((running {} morning).engine.driven (running {} morning).service deeds).2
      (reweightedRunning.engine.driven reweightedRunning.service deeds).2
      ((running {} morning).engine.driven (running {} morning).service deeds).1
      (reweightedRunning.engine.driven reweightedRunning.service deeds).1 := by
  obtain ⟨_, _, _, _, valid, _⟩ := evaluated
  obtain ⟨⟨_, same⟩, _⟩ := reweighted_evaluated
  have first := started valid morning
  have second : launch ⟨{}, reweightedGroups⟩ (registry 1) source .empty { wall := morning } = .ok reweightedRunning := by
    unfold reweightedRunning
    exact launch_valid valid
  have settings : (⟨{}, groups⟩ : Setup).settings = (⟨{}, reweightedGroups⟩ : Setup).settings := rfl
  have catalogs : (⟨{}, groups⟩ : Setup).catalog.unweighted = (⟨{}, reweightedGroups⟩ : Setup).catalog.unweighted := by
    dsimp only
    exact same
  exact ⟨⟨same, first, second⟩, ((weights_decide_nothing settings catalogs).2 _ _ first second).1⟩

end Sample

end GridLoad
