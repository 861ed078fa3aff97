import GridLoad.Files
import GridLoad.Feature.Token
import GridLoad.Forecast.Failure
import GridLoad.Model.Estimator

/-!
Where snapshots come from. A fetch takes some time, after which it gives a snapshot, fails, or breaks off
without any answer. What it gives is settled when it starts.
-/

set_option autoImplicit false

namespace GridLoad

inductive Origin where
  | fixed (answer : Except String Snapshot)
  | file (path : Path)

structure Source where
  name : String
  origin : Origin
  -- Milliseconds that each fetch takes, none beyond the list.
  delays : List Nat := []
  breaks : Bool := false
  -- Fetches that were started.
  fetches : Nat := 0

instance : Inhabited Source := ⟨{ name := "static", origin := .fixed (.error "") }⟩

inductive Fetched where
  | snapshot (s : Snapshot)
  | failed (failure : Failure)
  | broke
  deriving DecidableEq

def readSnapshot (files : Files) (path : Path) : Except String Snapshot :=
  match files.read? path with
  | .error e => .error ("failed to read " ++ path.text ++ ": " ++ e.message)
  | .ok bytes =>
      match (Json.ofBytes? bytes).bind Snapshot.ofJson? with
      | some s => .ok s
      | none => .error ("malformed snapshot " ++ path.text ++ ": " ++ unreadable)

def Origin.answer (files : Files) : Origin → Except String Snapshot
  | .fixed answer => answer
  | .file path => readSnapshot files path

def Fetched.ofAnswer : Except String Snapshot → Fetched
  | .ok s => .snapshot s
  | .error reason => .failed (.source reason)

def Source.fetch (files : Files) (s : Source) : Source × Nat × Fetched :=
  ({ s with fetches := s.fetches + 1 }, s.delays.getD s.fetches 0,
    if s.breaks then .broke else .ofAnswer (s.origin.answer files))

end GridLoad
