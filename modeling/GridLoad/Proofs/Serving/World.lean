import GridLoad.Proofs.Program.Transcript
import GridLoad.Serving.Launch
import GridLoad.Web.Api

/-!
The service with any number of requests under way. A step is one question of one request, the giving up of a
wait or of a request, one part of a refresh, or a change outside; steps come in any order.
-/

set_option autoImplicit false

namespace GridLoad

abbrev Transcript := List (Exchange Question.Answer)

inductive Ask where
  | predict (zone : String) (horizon : Nat) (options : Options)
  | trend (zone : String) (horizons : List Nat) (options : Options)
  | status (zone : String)
  | zones
  | reload
  | purge
  | web (request : Web.Request)
  deriving DecidableEq

abbrev Ask.Answer : Ask → Type
  | .predict .. => Outcome Prediction
  | .trend .. => Outcome (List Prediction)
  | .status _ => Outcome ZoneStatus
  | .zones => List ZoneSummary
  | .reload => Outcome ReloadReport
  | .purge => Nat × Int
  | .web _ => Outcome Web.Response

def Ask.program (v : Service) : (ask : Ask) → Serve ask.Answer
  | .predict zone horizon options => v.predict zone horizon options
  | .trend zone horizons options => v.trend zone horizons options
  | .status zone => v.status zone
  | .zones => v.zones
  | .reload => Service.reload
  | .purge => Service.purge
  | .web request => Web.Api.answer v request

-- A request, what it has asked so far, and what it still has to do.
structure Flight where
  caller : Caller
  ask : Ask
  transcript : Transcript := []
  rest : Serve ask.Answer
  dropped : Bool := false

def Flight.goOn (f : Flight) (x : Exchange Question.Answer) (rest : Serve f.ask.Answer) : Flight :=
  { f with transcript := f.transcript ++ [x], rest := rest }

-- What has been served, named and numbered so far.
structure History where
  published : List Registry
  named : List NamedSnapshot := []
  numbers : List Nat := []

def History.after (h : History) : Exchange Question.Answer → History
  | ⟨.act (.pin s), _⟩ => { h with named := h.named ++ [s] }
  | ⟨.act (.publish r), _⟩ => { h with published := h.published ++ [r] }
  | ⟨.act .generation, number⟩ => { h with numbers := h.numbers ++ [number] }
  | _ => h

-- A caller is gone: it waits no longer and holds nothing.
def Slot.abandon (caller : Caller) (s : Slot) : Slot :=
  let s := { s with waiting := s.waiting.filter (· ≠ caller) }
  if s.lock = .held caller ∨ s.lock = .handed caller then s.release else s

def Cache.abandon (caller : Caller) (c : Cache) : Cache := { c with slots := c.slots.map (Slot.abandon caller) }

def Engine.abandon (caller : Caller) (e : Engine) : Engine :=
  { e with
    cache := e.cache.abandon caller
    reloading := if e.reloading = some caller then none else e.reloading }

-- The snapshot that gets its token when a fetch ends.
def Captures.fetched? (id : RefreshId) (c : Captures) : Option NamedSnapshot :=
  match c.refreshes[id]? with
  | some ⟨_, _, .snapshot s, .fetching⟩ => some (.of s)
  | _ => none

structure World where
  engine : Engine
  flights : List Flight := []
  history : History

namespace World

def first (r : Registry) (e : Engine) : World := { engine := e, history := { published := [r] } }

def arrive (v : Service) (ask : Ask) (w : World) : World :=
  let (e, caller) := w.engine.receive
  { w with engine := e, flights := w.flights ++ [{ caller := caller, ask := ask, rest := ask.program v }] }

-- A flight has put a question and goes on with its answer.
def exchange (w : World) (i : Nat) (f : Flight) (e : Engine) (x : Exchange Question.Answer)
    (rest : Serve f.ask.Answer) : World where
  engine := e
  flights := w.flights.set i (f.goOn x rest)
  history := w.history.after x

def drop (w : World) (i : Nat) (f : Flight) : World :=
  { w with
    engine := w.engine.abandon f.caller
    flights := w.flights.set i { f with dropped := true } }

def withCaptures (w : World) (c : Captures) : World := { w with engine := { w.engine with captures := c } }

def endFetch (id : RefreshId) (w : World) : World :=
  { w.withCaptures (w.engine.captures.endFetch w.engine.now id) with
    history := { w.history with named := w.history.named ++ (w.engine.captures.fetched? id).toList } }

end World

-- One indivisible step of a service.
inductive Step (v : Service) : World → World → Prop
  | arrives (w : World) (ask : Ask) : Step v w (w.arrive v ask)
  | acts {w : World} {i : Nat} {f : Flight} {a : Act} {next : a.Answer → Serve f.ask.Answer}
      (there : w.flights[i]? = some f) (live : f.dropped = false) (turn : f.rest = .ask (.act a) next) :
      Step v w (w.exchange i f (w.engine.perform a).1 ⟨.act a, (w.engine.perform a).2⟩ (next (w.engine.perform a).2))
  | answered {w : World} {i : Nat} {f : Flight} {wait : Wait} {next : Option wait.Answer → Serve f.ask.Answer}
      {answer : wait.Answer} (there : w.flights[i]? = some f) (live : f.dropped = false)
      (turn : f.rest = .ask (.wait wait) next) (given : (w.engine.attempt f.caller wait).2 = some answer) :
      Step v w (w.exchange i f (w.engine.attempt f.caller wait).1 ⟨.wait wait, some answer⟩ (next (some answer)))
  -- It lines up, or goes on waiting.
  | waits {w : World} {i : Nat} {f : Flight} {wait : Wait} {next : Option wait.Answer → Serve f.ask.Answer}
      (there : w.flights[i]? = some f) (live : f.dropped = false) (turn : f.rest = .ask (.wait wait) next)
      (pending : (w.engine.attempt f.caller wait).2 = none) :
      Step v w { w with engine := (w.engine.attempt f.caller wait).1 }
  -- The patience for a refresh ends.
  | late {w : World} {i : Nat} {f : Flight} {id : RefreshId} {patience : Time.Span}
      {next : Option Awaited → Serve f.ask.Answer} (there : w.flights[i]? = some f) (live : f.dropped = false)
      (turn : f.rest = .ask (.wait (.refreshed id (some patience))) next) :
      Step v w (w.exchange i f w.engine ⟨.wait (.refreshed id (some patience)), some .late⟩ (next (some .late)))
  -- The budget of a request ends while it waits.
  | cut {w : World} {i : Nat} {f : Flight} {wait : Wait} {next : Option wait.Answer → Serve f.ask.Answer}
      (there : w.flights[i]? = some f) (live : f.dropped = false) (turn : f.rest = .ask (.wait wait) next) :
      Step v w (w.exchange i f (w.engine.giveUp f.caller wait) ⟨.wait wait, none⟩ (next none))
  -- A request is given up, wherever it is.
  | drops {w : World} {i : Nat} {f : Flight} (there : w.flights[i]? = some f) (live : f.dropped = false) :
      Step v w (w.drop i f)
  | fetched (w : World) (id : RefreshId) : Step v w (w.endFetch id)
  | recorded (w : World) (id : RefreshId) :
      Step v w (w.withCaptures (w.engine.captures.record w.engine.now id))
  | reported (w : World) (id : RefreshId) : Step v w (w.withCaptures (w.engine.captures.report id))
  -- Time passes, files and the source change, the record of events is read.
  | outside (w : World) (files : Files) (source : Source) (clock : Clock) (journal : List Event)
      (later : w.engine.now ≤ clock.instant) :
      Step v w { w with engine := { w.engine with files := files, source := source, clock := clock, journal := journal } }

-- What can come of a service that was started with a registry.
inductive Reachable : Service → Registry → World → Prop
  | launched {definitions : List Group} {setup : Setup} {r : Registry} {source : Source} {files : Files}
      {clock : Clock} {running : Running} (accepted : Catalog.define definitions = .ok setup.catalog)
      (started : launch setup r source files clock = .ok running) :
      Reachable running.service r (World.first r running.engine)
  | further {v : Service} {r : Registry} {w w' : World} (before : Reachable v r w) (step : Step v w w') :
      Reachable v r w'

end GridLoad
