import GridLoad.Feature.Token
import GridLoad.Forecast.Failure
import GridLoad.Model.Estimator
import GridLoad.Web.Address
import GridLoad.Web.StatusText

/-!
Snapshots from a web service. A fetch is tried again after a disturbance that may pass, each time after a
longer wait, up to a greatest number of attempts.
-/

set_option autoImplicit false

namespace GridLoad

open GridLoad.Time (Span)

structure RemoteRules where
  address : String
  retries : Nat := 2
  firstWait : Span := Span.ofMillis 200
  -- No wait but the first is longer.
  greatestWait : Span := Span.ofSeconds 2
  timeout : Span := Span.ofSeconds 5
  deriving DecidableEq

namespace RemoteRules

def waitAfter (r : RemoteRules) (wait : Span) : Span := wait.double.min r.greatestWait

def validate (r : RemoteRules) : Except Failure Unit :=
  if Web.isAddress r.address then .ok ()
  else .error (.configuration ("invalid feature source url " ++ r.address ++ ": " ++ unreadable))

end RemoteRules

inductive Reply where
  | lost (reason : String)
  -- The response breaks off in its body.
  | brokenOff (status : Nat) (reason : String)
  | complete (status : Nat) (body : List UInt8)
  deriving DecidableEq

inductive Attempt where
  | received (s : Snapshot)
  -- Another attempt would end alike.
  | refused (reason : String)
  -- Another attempt may go better.
  | disturbed (reason : String)
  deriving DecidableEq

namespace Attempt

-- What a status alone decides.
def ofStatus (status : Nat) (otherwise : Attempt) : Attempt :=
  if 500 ≤ status ∧ status < 600 ∨ status = 429 then .disturbed ("server returned " ++ Web.statusText status)
  else if 200 ≤ status ∧ status < 300 then otherwise
  else .refused ("server returned " ++ Web.statusText status)

def ofBody (body : List UInt8) : Attempt :=
  match (Json.ofBytes? body).bind Snapshot.ofJson? with
  | some s => .received s
  | none => .refused ("malformed snapshot: " ++ unreadable)

def ofReply : Reply → Attempt
  | .lost reason => .disturbed ("request failed: " ++ reason)
  | .brokenOff status reason => ofStatus status (.disturbed ("failed to read body: " ++ reason))
  | .complete status body => ofStatus status (ofBody body)

end Attempt

structure RemoteFetch where
  attempts : Nat
  waits : List Span
  answer : Except String Snapshot

namespace RemoteFetch

-- Goes on with a fetch of which some attempts have been made.
def goOn (rules : RemoteRules) (attempt : Nat → Attempt) (made : Nat) (wait : Span) : RemoteFetch :=
  match attempt made with
  | .received s => ⟨made + 1, [], .ok s⟩
  | .refused reason => ⟨made + 1, [], .error reason⟩
  | .disturbed reason =>
      if made < rules.retries then
        let rest := goOn rules attempt (made + 1) (rules.waitAfter wait)
        { rest with waits := wait :: rest.waits }
      else ⟨made + 1, [], .error ("giving up after " ++ toString (made + 1) ++ " attempts: " ++ reason)⟩
termination_by rules.retries - made

/-- A fetch whose attempts come to what is given for each. -/
def run (rules : RemoteRules) (attempt : Nat → Attempt) : RemoteFetch := goOn rules attempt 0 rules.firstWait

def result (f : RemoteFetch) : Except Failure Snapshot := f.answer.mapError .source

end RemoteFetch

end GridLoad
