import GridLoad.Feature.Freshness
import GridLoad.Feature.Source

/-!
The current snapshot, the refresh that will replace it, and every snapshot that can still be asked for by its
token. A refresh goes on by itself: it fetches, records what it got and then reports it, so that a request
that gives up waiting stops nothing. Each function here is one indivisible step.
-/

set_option autoImplicit false

namespace GridLoad

open GridLoad.Time (Instant Span)

structure CaptureRules where
  refreshInterval : Span := Span.ofSeconds 300
  -- How long a request that has a previous snapshot waits for a refresh.
  refreshWait : Span := Span.ofMillis 250
  -- How long a token can be asked for after its snapshot was last served.
  retention : Span := Span.ofSeconds 3600
  maxAgeSeconds : Nat := 10800
  freshness : Freshness := .warn
  deriving DecidableEq

instance : Inhabited CaptureRules := ⟨{}⟩

structure Dated where
  named : NamedSnapshot
  instant : Instant
  deriving DecidableEq

inductive RefreshPhase where
  | fetching
  | fetched (outcome : Except Failure NamedSnapshot)
  | recorded (outcome : Except Failure NamedSnapshot)
  | reported (outcome : Except Failure NamedSnapshot)
  | died

structure Refresh where
  since : Nat
  due : Nat
  answer : Fetched
  phase : RefreshPhase := .fetching

def Refresh.isLive (r : Refresh) : Bool :=
  match r.phase with
  | .fetching => true
  | .fetched _ => true
  | .recorded _ => true
  | .reported _ => false
  | .died => false

abbrev RefreshId := Nat

structure Captures where
  rules : CaptureRules := {}
  current : Option Dated := none
  inFlight : Option RefreshId := none
  refreshes : List Refresh := []
  pins : Table Token Dated := .empty

instance : Inhabited Captures := ⟨{}⟩

/-- What a refresh is known to have come to. -/
inductive Report where
  | outcome (outcome : Except Failure NamedSnapshot)
  | died

namespace Captures

def pin (now : Instant) (s : NamedSnapshot) (c : Captures) : Captures :=
  { c with pins := c.pins.insert s.token ⟨s, now⟩ }

def pinned? (token : Token) (c : Captures) : Option Dated := c.pins.get? token

def forget (token : Token) (c : Captures) : Captures := { c with pins := c.pins.erase token }

def isExpired (now : Instant) (d : Dated) (c : Captures) : Bool :=
  c.rules.retention.nanos < now - d.instant

def dropExpired (now : Instant) (c : Captures) : Captures :=
  { c with pins := c.pins.filter fun _ d => !c.isExpired now d }

def fresh? (now : Instant) (c : Captures) : Option NamedSnapshot :=
  match c.current with
  | some d => if now - d.instant < c.rules.refreshInterval.nanos then some d.named else none
  | none => none

def previous? (c : Captures) : Option NamedSnapshot := c.current.map (·.named)

-- The refresh that can be joined. One that died is not.
def live? (c : Captures) : Option RefreshId :=
  c.inFlight.filter fun id => c.refreshes[id]?.any Refresh.isLive

/-- Starts a refresh whose fetch takes some milliseconds. -/
def start (since delay : Nat) (answer : Fetched) (c : Captures) : Captures × RefreshId :=
  let id := c.refreshes.length
  let r : Refresh := { since := since, due := since + delay, answer := answer }
  ({ c with refreshes := c.refreshes ++ [r], inFlight := some id }, id)

def setPhase (id : RefreshId) (phase : RefreshPhase) (c : Captures) : Captures :=
  { c with refreshes := c.refreshes.modify id fun r => { r with phase := phase } }

def endFetch (now : Instant) (id : RefreshId) (c : Captures) : Captures :=
  match c.refreshes[id]? with
  | some ⟨_, _, answer, .fetching⟩ =>
      match answer with
      | .snapshot s =>
          let named := NamedSnapshot.of s
          (c.pin now named).setPhase id (.fetched (.ok named))
      | .failed failure => c.setPhase id (.fetched (.error failure))
      | .broke => c.setPhase id .died
  | _ => c

/-- What was fetched becomes current, and a new refresh may start. -/
def record (now : Instant) (id : RefreshId) (c : Captures) : Captures :=
  match c.refreshes[id]? with
  | some ⟨_, _, _, .fetched outcome⟩ =>
      let c := { c with inFlight := none }.setPhase id (.recorded outcome)
      match outcome with
      | .ok named => { c with current := some ⟨named, now⟩ }
      | .error _ => c
  | _ => c

def report (id : RefreshId) (c : Captures) : Captures :=
  match c.refreshes[id]? with
  | some ⟨_, _, _, .recorded outcome⟩ => c.setPhase id (.reported outcome)
  | _ => c

def report? (id : RefreshId) (c : Captures) : Option Report :=
  match c.refreshes[id]? with
  | some ⟨_, _, _, .reported outcome⟩ => some (.outcome outcome)
  | some ⟨_, _, _, .died⟩ => some .died
  | _ => none

-- A snapshot that a refresh has recorded and not yet reported.
def recorded? (id : RefreshId) (c : Captures) : Option NamedSnapshot :=
  match c.refreshes[id]? with
  | some ⟨_, _, _, .recorded (.ok named)⟩ => some named
  | _ => none

def fetching (c : Captures) : List (RefreshId × Nat) :=
  (List.range c.refreshes.length).filterMap fun id =>
    (c.refreshes[id]?).bind fun r =>
      match r.phase with
      | .fetching => some (id, r.due)
      | _ => none

end Captures

end GridLoad
