import GridLoad.Serving.Question

/-!
The state that requests share, and its answers to what they ask. `run` is a request that has the state to
itself; `runAll` starts several at one instant and goes on with each when what it waits for has happened.
Time passes only in waits, which end exactly at their deadlines.
-/

set_option autoImplicit false

namespace GridLoad

open GridLoad.Time (Instant Span Timestamp)

structure Clock where
  -- Goes on with everything that is done.
  instant : Instant := 0
  -- Milliseconds spent waiting.
  millis : Nat := 0
  wall : Timestamp

instance : Inhabited Clock := ⟨{ wall := ⟨0, 0⟩ }⟩

structure Engine where
  files : Files := .empty
  publication : Publication := default
  cache : Cache := {}
  source : Source := default
  captures : Captures := {}
  health : Health := {}
  tally : Tally := {}
  journal : List Event := []
  clock : Clock := default
  reloading : Option Caller := none
  callers : Caller := 0

instance : Inhabited Engine := ⟨{}⟩

namespace Engine

def now (e : Engine) : Instant := e.clock.instant

def tick (e : Engine) : Engine := { e with clock := { e.clock with instant := e.clock.instant + 1 } }

def log (event : Event) (e : Engine) : Engine := { e with journal := e.journal ++ [event] }

def joinRefresh (e : Engine) : Engine × RefreshId :=
  match e.captures.live? with
  | some id => (e, id)
  | none =>
      let (source, delay, answer) := e.source.fetch e.files
      let (captures, id) := e.captures.start e.clock.millis delay answer
      ({ e with source := source, captures := captures }, id)

def look (e : Engine) : Engine × Look :=
  match e.captures.fresh? e.now with
  | some s => (e, .fresh s)
  | none =>
      let (e, id) := e.joinRefresh
      (e, .refreshing id e.captures.previous?)

-- The end of a refresh: its fetch, the record of what it got, and the report.
def endRefresh (id : RefreshId) (e : Engine) : Engine :=
  let e := { e.tick with captures := (e.captures.endFetch e.now id).record e.now id }
  let e := match e.captures.recorded? id with
    | some s => e.log (.captured s.token s.snapshot.zones.size e.source.name)
    | none => e
  { e with captures := e.captures.report id }

def endRefreshesBefore (millis : Nat) (e : Engine) : Engine :=
  (e.captures.fetching.filter fun f => f.2 < millis).foldl (fun e f => e.endRefresh f.1) e

def endRefreshesDue (e : Engine) : Engine := e.endRefreshesBefore (e.clock.millis + 1)

def passTo (millis : Nat) (e : Engine) : Engine :=
  let e := e.endRefreshesBefore millis
  { e with clock := { e.clock with millis := max e.clock.millis millis } }

def counters (e : Engine) : List (String × Nat) :=
  e.tally.counts.entries ++ Tally.cacheCounts e.cache.hits e.cache.misses e.cache.coalesced

def gauges (e : Engine) : List (String × Int) := e.tally.gauges e.cache.size

-- Does what is answered at once.
def perform (e : Engine) : (a : Act) → Engine × a.Answer
  | .registry => (e, e.publication.current)
  | .slot key =>
      let (cache, slot) := e.cache.slotFor e.now key
      ({ e with cache := cache }, slot)
  | .leave slot computed => ({ e with cache := e.cache.leave e.now slot computed }, ())
  | .lastComputed zone => (e, e.cache.lastComputed? zone)
  | .look => e.look
  | .pin s => ({ e with captures := e.captures.pin e.now s }, ())
  | .pinned token => (e, (e.captures.pinned? token).map fun d => (d.named, e.captures.isExpired e.now d))
  | .forget token => ({ e with captures := e.captures.forget token }, ())
  | .wallTime => (e, e.clock.wall)
  | .note event => (e.log event, ())
  | .count counter => ({ e with tally := e.tally.count counter }, ())
  | .find component finding =>
      ({ e with health := e.health.update component.name { finding with checkedAt := e.clock.wall.seconds } }, ())
  | .health => (e, e.health)
  | .endReload => ({ e with reloading := none }, ())
  | .generation =>
      let (publication, generation) := e.publication.allocate
      ({ e with publication := publication }, generation)
  | .publish r => ({ e with publication := e.publication.publish r }, ())
  | .retain generation =>
      let cache := e.cache.retain generation
      ({ e with cache := cache }, e.cache.size - cache.size)
  | .gauge r => ({ e with tally := { e.tally with registry := RegistryGauges.of r } }, ())
  | .purgeCache =>
      let cache := e.cache.purge e.now
      ({ e with cache := cache }, e.cache.size - cache.size)
  | .pinCount => (e, e.captures.pins.size)
  | .dropPins => ({ e with captures := e.captures.dropExpired e.now }, ())
  | .series => (e, (e.counters.map fun c => (c.1, (c.2 : Int))) ++ e.gauges)

def attempt (caller : Caller) (e : Engine) : (w : Wait) → Engine × Option w.Answer
  | .enter slot =>
      let (cache, entry) := e.cache.enter e.now caller slot
      ({ e with cache := cache },
        match entry with
        | .waits => none
        | .found p => some (.found p)
        | .granted => some .granted)
  | .refreshed id _ => (e, (e.captures.report? id).map .report)
  | .reloadTurn => if e.reloading.isNone then ({ e with reloading := some caller }, some ()) else (e, none)
  | .models root generation => (e, some (Registry.ofDirectory e.files root generation))

def giveUp (caller : Caller) (w : Wait) (e : Engine) : Engine :=
  match w with
  | .enter slot => { e with cache := e.cache.withdraw caller slot }
  | _ => e

-- How a wait for a refresh ends: with its report, at the end of the patience, or of the budget.
inductive WaitEnd where
  | reported (millis : Nat)
  | late (millis : Nat)
  | outOfTime (millis : Nat)

def WaitEnd.millis : WaitEnd → Nat
  | .reported millis => millis
  | .late millis => millis
  | .outOfTime millis => millis

-- A refresh is in time that is due before the end of a wait. One that is due at the very end is in time
-- if it was started before the wait.
def isInTime (since : Nat) (r : Refresh) (limit : Nat) : Bool :=
  r.due < limit || (r.due = limit && r.since < since)

def waitEnd (deadline : Option Nat) (since : Nat) (id : RefreshId) (patience : Option Span) (e : Engine) :
    WaitEnd :=
  let lateAt := patience.map fun p => since + p.millisAbove
  let inTime := fun (r : Refresh) => lateAt.all (isInTime since r) && deadline.all (isInTime since r)
  match e.captures.refreshes[id]?.filter inTime with
  | some r => .reported (max r.due e.clock.millis)
  | none =>
      match lateAt, deadline with
      | some late, some limit => if late ≤ limit then .late late else .outOfTime limit
      | some late, none => .late late
      | none, some limit => .outOfTime limit
      | none, none => .reported e.clock.millis

-- Waits with nobody else about, for a wait that began at `since`.
def awaitSince (caller : Caller) (deadline : Option Nat) (since : Nat) (w : Wait) (e : Engine) :
    Engine × Option w.Answer :=
  match e.attempt caller w with
  | (e, some answer) => (e, some answer)
  | (e, none) =>
      match w with
      | .refreshed id patience =>
          match e.waitEnd deadline since id patience with
          | .reported millis => ((e.passTo millis).endRefresh id).attempt caller (.refreshed id patience)
          | .late millis => (e.passTo millis, some .late)
          | .outOfTime millis => (e.passTo millis, none)
      | w => ((e.passTo (deadline.getD e.clock.millis)).giveUp caller w, none)

variable {α : Type}

-- Runs a program to its end with nobody else about.
def run (caller : Caller) (deadline : Option Nat) : Serve α → Engine → Engine × α
  | .done value, e => (e, value)
  | .ask (.act a) next, e =>
      let (e, answer) := e.tick.perform a
      run caller deadline (next answer) e
  | .ask (.wait w) next, e =>
      let (e, answer) := e.tick.awaitSince caller deadline e.clock.millis w
      run caller deadline (next answer) e

/-- A program and its budget. -/
structure Task (α : Type) where
  budget : Option Span
  program : Serve α

def Task.deadline (t : Task α) (e : Engine) : Option Nat :=
  t.budget.map fun b => e.clock.millis + b.millisAbove

def receive (e : Engine) : Engine × Caller := ({ e with callers := e.callers + 1 }, e.callers)

def serve (t : Task α) (e : Engine) : Engine × α :=
  let (e, caller) := e.receive
  let (e, value) := e.run caller (t.deadline e) t.program
  (e.endRefreshesDue, value)

-- Reading a directory takes others' turn even where it takes no time.
def Wait.yields : Wait → Bool
  | .models _ _ => true
  | _ => false

-- Runs a program up to a wait that cannot be answered yet.
def advance (caller : Caller) : Serve α → Engine → Engine × Serve α
  | .done value, e => (e, .done value)
  | .ask (.act a) next, e =>
      let (e, answer) := e.tick.perform a
      advance caller (next answer) e
  | .ask (.wait w) next, e =>
      if Wait.yields w then (e, .ask (.wait w) next)
      else
        match e.tick.attempt caller w with
        | (e, some answer) => advance caller (next (some answer)) e
        | (e, none) => (e, .ask (.wait w) next)

-- Something that is started beside others: a task, or what is done at once.
inductive Job (α : Type) where
  | task (t : Task α)
  | instant (f : Engine → Engine × α)

structure Started (α : Type) where
  place : Nat
  caller : Caller
  deadline : Option Nat
  since : Nat
  rest : Serve α

def start (place : Nat) (j : Job α) (e : Engine) : Engine × Started α :=
  match j with
  | .instant f =>
      let (e, value) := f e
      (e, ⟨place, 0, none, e.clock.millis, .done value⟩)
  | .task t =>
      let (e, caller) := e.receive
      let deadline := t.deadline e
      let (e, rest) := e.advance caller t.program
      (e, ⟨place, caller, deadline, e.clock.millis, rest⟩)

def startAll : Nat → List (Job α) → Engine → Engine × List (Started α)
  | _, [], e => (e, [])
  | place, j :: rest, e =>
      let (e, first) := e.start place j
      let (e, others) := startAll (place + 1) rest e
      (e, first :: others)

-- When a started job goes on, and which go first at one millisecond.
def turn (e : Engine) (s : Started α) : Nat × Nat :=
  match s.rest with
  | .ask (.wait (.refreshed id patience)) _ =>
      match e.waitEnd s.deadline s.since id patience with
      | .reported millis => (millis, 1)
      | w => (w.millis, 0)
  | .ask (.wait w) _ => (s.since, if Wait.yields w then 2 else 3)
  | _ => (0, 0)

def goesFirst (e : Engine) (s t : Started α) : Bool :=
  let a := e.turn s
  let b := e.turn t
  a.1 < b.1 || (a.1 = b.1 && a.2 ≤ b.2)

def resume (s : Started α) (e : Engine) : Engine × α :=
  match s.rest with
  | .ask (.wait w) next =>
      let (e, answer) := e.tick.awaitSince s.caller s.deadline s.since w
      e.run s.caller s.deadline (next answer)
  | rest => e.run s.caller s.deadline rest

def resumeAll : List (Started α) → Engine → Engine × List (Nat × α)
  | [], e => (e, [])
  | s :: rest, e =>
      let (e, value) := e.resume s
      let (e, others) := resumeAll rest e
      (e, (s.place, value) :: others)

def runAll (jobs : List (Job α)) (e : Engine) : Engine × List α :=
  let (e, started) := e.startAll 0 jobs
  let (e, values) := e.resumeAll (started.mergeSort e.goesFirst)
  (e.endRefreshesDue, (values.mergeSort fun a b => a.1 ≤ b.1).map (·.2))

def pass (millis : Nat) (e : Engine) : Engine := (e.passTo (e.clock.millis + millis)).endRefreshesDue

-- Lets only the instants go on.
def sleep (millis : Nat) (e : Engine) : Engine :=
  { e with clock := { e.clock with instant := e.clock.instant + (Span.ofMillis millis).nanos } }

end Engine

end GridLoad
