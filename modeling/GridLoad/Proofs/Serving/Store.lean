import GridLoad.Proofs.Feature.Refreshed

/-!
The store of snapshots by itself. Calls for the current snapshot and refreshes go on in steps that come in any order,
and any of them may be given up or die; the other operations are done at once.
-/

set_option autoImplicit false

namespace GridLoad

open GridLoad.Time (Instant)

-- What is done at once.
inductive StoreUse where
  | register (s : Snapshot)
  | derive (base : NamedSnapshot) (zones : List String) (overrides : Values)
  | pinned (token : Token)
  | checkFreshness (s : NamedSnapshot)
  | purge

abbrev StoreUse.Answer : StoreUse → Type
  | .register _ => NamedSnapshot
  | .derive .. => NamedSnapshot
  | .pinned _ => Outcome NamedSnapshot
  | .checkFreshness _ => Outcome Unit
  | .purge => Nat × Int

def StoreUse.program (rules : CaptureRules) : (u : StoreUse) → Serve u.Answer
  | .register s => registerSnapshot s
  | .derive base zones overrides => deriveSnapshot base zones overrides
  | .pinned token => pinnedSnapshot token
  | .checkFreshness s => GridLoad.checkFreshness rules s
  | .purge => Service.purge

inductive StoreEvent where
  | began (call : Nat)
  | returned (call : Nat) (out : Outcome ServedSnapshot)
  -- A fetch ended with a snapshot, which got its token.
  | captured (s : NamedSnapshot)
  -- What a refresh had captured became current.
  | installed (s : NamedSnapshot)
  | used (u : StoreUse) (answer : u.Answer)

abbrev StoreLog := List (Instant × StoreEvent)

-- A call for the current snapshot, and what it still has to do.
structure StoreCall where
  caller : Caller
  rest : Serve (Outcome ServedSnapshot)
  dropped : Bool := false

structure Store where
  engine : Engine
  calls : List StoreCall := []
  log : StoreLog := []

namespace Store

def now (w : Store) : Instant := w.engine.now

def captures (w : Store) : Captures := w.engine.captures

def begin (rules : CaptureRules) (sourceName : String) (w : Store) : Store where
  engine := w.engine.receive.1
  calls := w.calls ++ [{ caller := w.engine.receive.2, rest := currentSnapshot rules sourceName }]
  log := w.log ++ [(w.now, .began w.calls.length)]

-- What is put on record when a call has come this far.
def ending (i : Nat) : Serve (Outcome ServedSnapshot) → List StoreEvent
  | .done out => [.returned i out]
  | .ask _ _ => []

-- A call has put a question and goes on with its answer.
def goOn (i : Nat) (f : StoreCall) (e : Engine) (rest : Serve (Outcome ServedSnapshot)) (w : Store) : Store where
  engine := e
  calls := w.calls.set i { f with rest := rest }
  log := w.log ++ (ending i rest).map (w.now, ·)

def withCaptures (c : Captures) (events : List StoreEvent) (w : Store) : Store :=
  { w with engine := { w.engine with captures := c }, log := w.log ++ events.map (w.now, ·) }

-- The first question of a use is put one tick later, as by every request.
def use (rules : CaptureRules) (u : StoreUse) (caller : Caller) (w : Store) : Store :=
  let (e, answer) := w.engine.run caller none (u.program rules)
  { w with engine := e, log := w.log ++ [(w.engine.tick.now, .used u answer)] }

end Store

-- One indivisible step.
inductive StoreStep (rules : CaptureRules) (sourceName : String) : Store → Store → Prop
  | begins (w : Store) : StoreStep rules sourceName w (w.begin rules sourceName)
  | acts {w : Store} {i : Nat} {f : StoreCall} {a : Act} {next : a.Answer → Serve (Outcome ServedSnapshot)}
      (there : w.calls[i]? = some f) (live : f.dropped = false) (turn : f.rest = .ask (.act a) next) :
      StoreStep rules sourceName w (w.goOn i f (w.engine.perform a).1 (next (w.engine.perform a).2))
  | answered {w : Store} {i : Nat} {f : StoreCall} {wait : Wait}
      {next : Option wait.Answer → Serve (Outcome ServedSnapshot)} {answer : wait.Answer}
      (there : w.calls[i]? = some f) (live : f.dropped = false) (turn : f.rest = .ask (.wait wait) next)
      (given : (w.engine.attempt f.caller wait).2 = some answer) :
      StoreStep rules sourceName w (w.goOn i f (w.engine.attempt f.caller wait).1 (next (some answer)))
  -- The patience for a refresh ends, which may be at any time.
  | late {w : Store} {i : Nat} {f : StoreCall} {id : RefreshId} {patience : Time.Span}
      {next : Option Awaited → Serve (Outcome ServedSnapshot)} (there : w.calls[i]? = some f) (live : f.dropped = false)
      (turn : f.rest = .ask (.wait (.refreshed id (some patience))) next) :
      StoreStep rules sourceName w (w.goOn i f w.engine (next (some .late)))
  | drops {w : Store} {i : Nat} {f : StoreCall} (there : w.calls[i]? = some f) :
      StoreStep rules sourceName w { w with calls := w.calls.set i { f with dropped := true } }
  | fetched (w : Store) (id : RefreshId) :
      StoreStep rules sourceName w
        (w.withCaptures (w.captures.endFetch w.now id) ((w.captures.fetched? id).toList.map .captured))
  | recorded (w : Store) (id : RefreshId) :
      StoreStep rules sourceName w
        (w.withCaptures (w.captures.record w.now id) ((w.captures.installs? id).toList.map .installed))
  | reported (w : Store) (id : RefreshId) : StoreStep rules sourceName w (w.withCaptures (w.captures.report id) [])
  -- A refresh dies, wherever it is.
  | dies {w : Store} {id : RefreshId} {r : Refresh} (there : w.captures.refreshes[id]? = some r)
      (live : r.isLive = true) : StoreStep rules sourceName w (w.withCaptures (w.captures.setPhase id .died) [])
  | uses (w : Store) (u : StoreUse) (caller : Caller) : StoreStep rules sourceName w (w.use rules u caller)
  -- Time passes, and anything but the snapshots may change: what the source will answer, for one.
  | outside {w : Store} {e : Engine} (same : e.captures = w.captures) (later : w.now ≤ e.now) :
      StoreStep rules sourceName w { w with engine := e }

-- What can come of a store that starts with nothing.
inductive StoreRun (rules : CaptureRules) (sourceName : String) : Store → Prop
  | fresh {e : Engine} (empty : e.captures = { rules := rules }) : StoreRun rules sourceName { engine := e }
  | further {w w' : Store} (before : StoreRun rules sourceName w) (step : StoreStep rules sourceName w w') :
      StoreRun rules sourceName w'

/-! Where a call is. -/

-- The second half of a call, which joined a refresh.
def awaitRefresh (rules : CaptureRules) (sourceName : String) (id : RefreshId) :
    Option NamedSnapshot → Serve (Outcome ServedSnapshot)
  | none => do
      match ← wait (.refreshed id none) with
      | none => pure (.error .outOfTime)
      | some (.report (.outcome (.ok s))) => handOut s none
      | some (.report (.outcome (.error failure))) => pure (fail failure)
      | some (.report .died) => pure (fail (.source noResult))
      | some .late => pure (fail (.source noResult))
  | some previous => do
      match ← wait (.refreshed id (some rules.refreshWait)) with
      | none => pure (.error .outOfTime)
      | some (.report (.outcome (.ok s))) => handOut s none
      | some (.report (.outcome (.error failure))) => handOut previous (some failure.message)
      | some (.report .died) => handOut previous (some noResult)
      | some .late =>
          handOut previous
            (some (sourceName ++ " source did not answer within " ++ rules.refreshWait.text))

inductive Point where
  | looks
  | awaits (id : RefreshId) (previous : Option NamedSnapshot)
  | serves (s : NamedSnapshot) (sourceError : Option String)
  | ended (out : Outcome ServedSnapshot)

namespace Point

variable {rules : CaptureRules} {sourceName : String}

def program (rules : CaptureRules) (sourceName : String) : Point → Serve (Outcome ServedSnapshot)
  | looks => currentSnapshot rules sourceName
  | awaits id previous => awaitRefresh rules sourceName id previous
  | serves s sourceError => handOut s sourceError
  | ended out => .done out

-- What a look leads to.
def found : Look → Point
  | .fresh s => serves s none
  | .refreshing id previous => awaits id previous

-- What the end of a wait leads to.
def told (rules : CaptureRules) (sourceName : String) : Option NamedSnapshot → Awaited → Point
  | _, .report (.outcome (.ok s)) => serves s none
  | none, .report (.outcome (.error failure)) => ended (fail failure)
  | none, .report .died => ended (fail (.source noResult))
  | none, .late => ended (fail (.source noResult))
  | some previous, .report (.outcome (.error failure)) => serves previous (some failure.message)
  | some previous, .report .died => serves previous (some noResult)
  | some previous, .late =>
      serves previous (some (sourceName ++ " source did not answer within " ++ rules.refreshWait.text))

-- Whoever has waited serves the previous snapshot or what the refresh came to, and fails only if there is neither.
theorem told_cases (rules : CaptureRules) (sourceName : String) (previous : Option NamedSnapshot) (awaited : Awaited) :
    (∃ s sourceError, told rules sourceName previous awaited = serves s sourceError ∧
      (previous = some s ∨ awaited = .report (.outcome (.ok s)))) ∨
    previous = none ∧ ∃ halt, told rules sourceName previous awaited = ended (.error halt) := by
  cases previous with
  | none =>
      rcases awaited with ⟨⟨_ | s⟩ | _⟩ | _
      · exact .inr ⟨rfl, _, rfl⟩
      · exact .inl ⟨s, _, rfl, .inr rfl⟩
      · exact .inr ⟨rfl, _, rfl⟩
      · exact .inr ⟨rfl, _, rfl⟩
  | some previous =>
      rcases awaited with ⟨⟨_ | s⟩ | _⟩ | _
      · exact .inl ⟨previous, _, rfl, .inl rfl⟩
      · exact .inl ⟨s, _, rfl, .inr rfl⟩
      · exact .inl ⟨previous, _, rfl, .inl rfl⟩
      · exact .inl ⟨previous, _, rfl, .inl rfl⟩

theorem told_pending (previous : Option NamedSnapshot) (awaited : Awaited) (x : ServedSnapshot) :
    told rules sourceName previous awaited ≠ .ended (.ok x) := by
  rcases told_cases rules sourceName previous awaited with ⟨s, sourceError, told, _⟩ | ⟨_, halt, told⟩ <;>
    rw [told] <;> nofun

theorem acts_from {p : Point} {a : Act} {next : a.Answer → Serve (Outcome ServedSnapshot)}
    (turn : p.program rules sourceName = .ask (.act a) next) (e : Engine) :
    (p = looks ∧ (e.perform a).1 = e.look.1 ∧ next (e.perform a).2 = (found e.look.2).program rules sourceName) ∨
    ∃ s sourceError, p = serves s sourceError ∧
      (e.perform a).1 = { e with captures := e.captures.pin e.now s } ∧
      next (e.perform a).2 = .done (.ok ⟨s, sourceError⟩) := by
  cases p with
  | looks =>
      cases turn
      refine .inl ⟨rfl, rfl, ?_⟩
      show (match e.look.2 with
        | .fresh s => _
        | .refreshing id none => _
        | .refreshing id (some previous) => _) = _
      cases e.look.2 with
      | fresh s => rfl
      | refreshing id previous => cases previous <;> rfl
  | awaits id previous => cases previous <;> cases turn
  | serves s sourceError =>
      cases turn
      exact .inr ⟨s, sourceError, rfl, rfl, rfl⟩
  | ended out => cases turn

theorem waits_from {p : Point} {id : RefreshId} {patience : Option Time.Span}
    {next : Option Awaited → Serve (Outcome ServedSnapshot)}
    (turn : p.program rules sourceName = .ask (.wait (.refreshed id patience)) next) :
    ∃ previous, p = awaits id previous := by
  cases p with
  | looks => cases turn
  | awaits id previous =>
      cases previous <;> cases turn
      · exact ⟨none, rfl⟩
      · exact ⟨some _, rfl⟩
  | serves s sourceError => cases turn
  | ended out => cases turn

theorem answered_from {p : Point} {w : Wait} {next : Option w.Answer → Serve (Outcome ServedSnapshot)}
    {answer : w.Answer} {caller : Caller} {e : Engine} (turn : p.program rules sourceName = .ask (.wait w) next)
    (given : (e.attempt caller w).2 = some answer) :
    ∃ id previous report, p = awaits id previous ∧ (e.attempt caller w).1 = e ∧
      e.captures.report? id = some report ∧
      next (some answer) = (told rules sourceName previous (.report report)).program rules sourceName := by
  cases p with
  | looks => cases turn
  | serves s sourceError => cases turn
  | ended out => cases turn
  | awaits id previous =>
      cases previous <;> cases turn <;> obtain ⟨report, known, rfl⟩ := Option.map_eq_some_iff.mp given <;>
        refine ⟨id, _, report, rfl, rfl, known, ?_⟩ <;> rcases report with ⟨_ | _⟩ | _ <;> rfl

theorem late_from {p : Point} {id : RefreshId} {patience : Time.Span}
    {next : Option Awaited → Serve (Outcome ServedSnapshot)}
    (turn : p.program rules sourceName = .ask (.wait (.refreshed id (some patience))) next) :
    ∃ previous, p = awaits id (some previous) ∧
      next (some .late) = (told rules sourceName (some previous) .late).program rules sourceName := by
  cases p with
  | looks => cases turn
  | awaits id previous =>
      cases previous <;> cases turn
      exact ⟨_, rfl, rfl⟩
  | serves s sourceError => cases turn
  | ended out => cases turn

end Point

/-! What a look does, and what is done at once. -/

namespace Engine

variable {e : Engine}

theorem look_fresh {s : NamedSnapshot} (fresh : e.captures.fresh? e.now = some s) : e.look = (e, .fresh s) := by
  simp only [look, fresh]

theorem look_joins {id : RefreshId} (stale : e.captures.fresh? e.now = none) (live : e.captures.live? = some id) :
    e.look = (e, .refreshing id e.captures.previous?) := by
  simp only [look, stale, joinRefresh, live]

theorem look_starts (stale : e.captures.fresh? e.now = none) (free : e.captures.live? = none) :
    ∃ delay answer, e.look.1.captures = (e.captures.start e.clock.millis delay answer).1 ∧ e.look.1.clock = e.clock ∧
      e.look.2 = .refreshing e.captures.refreshes.length e.captures.previous? := by
  unfold look joinRefresh
  rw [stale, free]
  exact ⟨_, _, rfl, rfl, rfl⟩

/-! Each use by itself. -/

section

variable {α : Type} {caller : Caller} {deadline : Option Nat}

theorem run_pure (value : α) : e.run caller deadline (pure value) = (e, value) := rfl

theorem run_act (a : Act) (next : a.Answer → Serve α) : e.run caller deadline (act a >>= next) =
    (e.tick.perform a).1.run caller deadline (next (e.tick.perform a).2) := rfl

end

variable {caller : Caller}

theorem run_register (s : Snapshot) : e.run caller none (registerSnapshot s) =
    ({ e.tick with captures := e.captures.pin e.tick.now (.of s) }, .of s) := rfl

theorem run_derive (base : NamedSnapshot) (zones : List String) (overrides : Values) :
    e.run caller none (deriveSnapshot base zones overrides) =
      if overrides.isEmpty then (e, base)
      else e.run caller none (registerSnapshot (base.snapshot.withOverrides zones overrides)) := by
  unfold deriveSnapshot
  split <;> rfl

theorem run_pinned (token : Token) : e.run caller none (pinnedSnapshot token) =
    match e.captures.pinned? token with
    | none => (e.tick, fail (.unknownSnapshot token))
    | some d =>
        if e.captures.isExpired e.tick.now d then
          ({ e.tick.tick with captures := e.captures.forget token }, fail (.unknownSnapshot token))
        else (e.tick, .ok d.named) := by
  have kept : e.tick.captures = e.captures := rfl
  unfold pinnedSnapshot
  rw [run_act]
  simp only [perform, kept]
  cases e.captures.pinned? token with
  | none => rfl
  | some d =>
      simp only [Option.map_some]
      cases e.captures.isExpired e.tick.now d <;> rfl

theorem run_check (rules : CaptureRules) (s : NamedSnapshot) :
    (e.run caller none (checkFreshness rules s)).1.captures = e.captures ∧
      e.now ≤ (e.run caller none (checkFreshness rules s)).1.now := by
  unfold checkFreshness
  rw [run_act]
  generalize found : staleAge? rules.maxAgeSeconds (e.tick.perform .wallTime).2 s = stale
  cases stale with
  | none =>
      rw [run_pure]
      exact ⟨rfl, Nat.le_succ _⟩
  | some a =>
      rw [run_act]
      by_cases rejected : rules.freshness = .reject
      · simp only [rejected, if_true]
        rw [run_pure]
        exact ⟨rfl, Nat.le_succ_of_le (Nat.le_succ _)⟩
      · simp only [rejected, if_false]
        rw [run_pure]
        exact ⟨rfl, Nat.le_succ_of_le (Nat.le_succ _)⟩

-- Tokens are dropped two ticks after a purge has begun.
def purging (e : Engine) : Instant := e.tick.tick.tick.now

theorem run_purge : (e.run caller none Service.purge).1.captures = e.captures.dropExpired e.purging ∧
    e.purging ≤ (e.run caller none Service.purge).1.now ∧
    (e.run caller none Service.purge).2.2 =
      (e.captures.pins.size : Int) - (e.captures.dropExpired e.purging).pins.size := by
  unfold Service.purge
  rw [run_act, run_act, run_act, run_act, run_pure]
  exact ⟨rfl, Nat.le_succ _, rfl⟩

end Engine

theorem use_beside (rules : CaptureRules) (u : StoreUse) (caller : Caller) (w : Store) :
    (w.use rules u caller).captures.current = w.captures.current ∧
      (w.use rules u caller).captures.inFlight = w.captures.inFlight ∧
      (w.use rules u caller).captures.refreshes = w.captures.refreshes := by
  have ran : (w.use rules u caller).captures = (w.engine.run caller none (u.program rules)).1.captures := rfl
  rw [ran]
  cases u with
  | register s =>
      rw [StoreUse.program, Engine.run_register]
      exact ⟨rfl, rfl, rfl⟩
  | derive base zones overrides =>
      rw [StoreUse.program, Engine.run_derive]
      split <;> exact ⟨rfl, rfl, rfl⟩
  | pinned token =>
      rw [StoreUse.program, Engine.run_pinned]
      split
      · exact ⟨rfl, rfl, rfl⟩
      · split <;> exact ⟨rfl, rfl, rfl⟩
  | checkFreshness s =>
      rw [StoreUse.program, (Engine.run_check rules s).1]
      exact ⟨rfl, rfl, rfl⟩
  | purge =>
      rw [StoreUse.program, Engine.run_purge.1]
      exact ⟨rfl, rfl, rfl⟩

/-! Steps in an order that is laid down beforehand. A move that cannot be made changes nothing. -/

inductive StoreMove where
  | begin
  -- A call puts its next question, if it can be answered.
  | go (i : Nat)
  | drop (i : Nat)
  | fetched (id : RefreshId)
  | recorded (id : RefreshId)
  | reported (id : RefreshId)
  | die (id : RefreshId)
  | use (u : StoreUse)
  | pass (nanos : Nat)

namespace Store

variable {rules : CaptureRules} {sourceName : String} {w : Store}

def go (i : Nat) (f : StoreCall) (w : Store) : Store :=
  match f.rest with
  | .done _ => w
  | .ask (.act a) next => w.goOn i f (w.engine.perform a).1 (next (w.engine.perform a).2)
  | .ask (.wait awaited) next =>
      match (w.engine.attempt f.caller awaited).2 with
      | some answer => w.goOn i f (w.engine.attempt f.caller awaited).1 (next (some answer))
      | none => w

def move (rules : CaptureRules) (sourceName : String) (w : Store) : StoreMove → Store
  | .begin => w.begin rules sourceName
  | .go i =>
      match w.calls[i]? with
      | some f => if f.dropped then w else w.go i f
      | none => w
  | .drop i =>
      match w.calls[i]? with
      | some f => { w with calls := w.calls.set i { f with dropped := true } }
      | none => w
  | .fetched id => w.withCaptures (w.captures.endFetch w.now id) ((w.captures.fetched? id).toList.map .captured)
  | .recorded id => w.withCaptures (w.captures.record w.now id) ((w.captures.installs? id).toList.map .installed)
  | .reported id => w.withCaptures (w.captures.report id) []
  | .die id =>
      match w.captures.refreshes[id]? with
      | some r => if r.isLive then w.withCaptures (w.captures.setPhase id .died) [] else w
      | none => w
  | .use u => w.use rules u 0
  | .pass nanos =>
      { w with engine := { w.engine with clock := { w.engine.clock with instant := w.engine.clock.instant + nanos } } }

def play (rules : CaptureRules) (sourceName : String) (w : Store) (moves : List StoreMove) : Store :=
  moves.foldl (move rules sourceName) w

theorem go_run {i : Nat} {f : StoreCall} (run : StoreRun rules sourceName w) (there : w.calls[i]? = some f)
    (live : f.dropped = false) : StoreRun rules sourceName (w.go i f) := by
  unfold go
  split
  · exact run
  · rename_i a next turn
    exact .further run (.acts there live turn)
  · rename_i awaited next turn
    split
    · rename_i answer given
      exact .further run (.answered there live turn given)
    · exact run

theorem move_run (run : StoreRun rules sourceName w) (m : StoreMove) :
    StoreRun rules sourceName (w.move rules sourceName m) := by
  cases m with
  | begin => exact .further run (.begins w)
  | go i =>
      simp only [move]
      split
      · rename_i f there
        split
        · exact run
        · rename_i live
          exact go_run run there (by simpa using live)
      · exact run
  | drop i =>
      simp only [move]
      split
      · rename_i f there
        exact .further run (.drops there)
      · exact run
  | fetched id => exact .further run (.fetched w id)
  | recorded id => exact .further run (.recorded w id)
  | reported id => exact .further run (.reported w id)
  | die id =>
      simp only [move]
      split
      · rename_i r there
        split
        · rename_i live
          exact .further run (.dies there live)
        · exact run
      · exact run
  | use u => exact .further run (.uses w u 0)
  | pass nanos => exact .further run (.outside rfl (Nat.le_add_right _ _))

theorem play_run (run : StoreRun rules sourceName w) (moves : List StoreMove) :
    StoreRun rules sourceName (w.play rules sourceName moves) := by
  induction moves generalizing w with
  | nil => exact run
  | cons m rest ih => exact ih (move_run run m)

end Store

end GridLoad
