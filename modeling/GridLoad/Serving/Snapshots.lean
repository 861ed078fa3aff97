import GridLoad.Serving.Question
import GridLoad.Serving.Setup

/-!
The snapshot that a request rests on: the current one, or one that was served before, with the values that
the request puts in the stead of others.
-/

set_option autoImplicit false

namespace GridLoad

structure ServedSnapshot where
  named : NamedSnapshot
  sourceError : Option String := none
  deriving DecidableEq

def noResult : String := "snapshot refresh ended without a result"

-- Hands out a snapshot, whose token is kept for another period.
def handOut (s : NamedSnapshot) (sourceError : Option String) : Serve (Outcome ServedSnapshot) := do
  act (.pin s)
  pure (.ok ⟨s, sourceError⟩)

/-- The current snapshot. Where there is a previous one it stands in for a refresh that fails or is late. -/
def currentSnapshot (rules : CaptureRules) (sourceName : String) : Serve (Outcome ServedSnapshot) := do
  match ← act .look with
  | .fresh s => handOut s none
  | .refreshing id none =>
      match ← wait (.refreshed id none) with
      | none => pure (.error .outOfTime)
      | some (.report (.outcome (.ok s))) => handOut s none
      | some (.report (.outcome (.error failure))) => pure (fail failure)
      | some (.report .died) => pure (fail (.source noResult))
      | some .late => pure (fail (.source noResult))
  | .refreshing id (some previous) =>
      match ← wait (.refreshed id (some rules.refreshWait)) with
      | none => pure (.error .outOfTime)
      | some (.report (.outcome (.ok s))) => handOut s none
      | some (.report (.outcome (.error failure))) => handOut previous (some failure.message)
      | some (.report .died) => handOut previous (some noResult)
      | some .late =>
          handOut previous
            (some (sourceName ++ " source did not answer within " ++ rules.refreshWait.text))

def pinnedSnapshot (token : Token) : Serve (Outcome NamedSnapshot) := do
  match ← act (.pinned token) with
  | none => pure (fail (.unknownSnapshot token))
  | some (s, false) => pure (.ok s)
  | some (_, true) => do
      act (.forget token)
      pure (fail (.unknownSnapshot token))

def registerSnapshot (s : Snapshot) : Serve NamedSnapshot := do
  let named := NamedSnapshot.of s
  act (.pin named)
  pure named

def deriveSnapshot (s : NamedSnapshot) (zones : List String) (overrides : Values) : Serve NamedSnapshot :=
  if overrides.isEmpty then pure s else registerSnapshot (s.snapshot.withOverrides zones overrides)

-- Puts a snapshot that is too old on record, and fails where it is not to be served.
def checkFreshness (rules : CaptureRules) (s : NamedSnapshot) : Serve (Outcome Unit) := do
  let now ← act .wallTime
  match staleAge? rules.maxAgeSeconds now s with
  | none => pure (.ok ())
  | some a => do
      let rejected := rules.freshness = .reject
      act (.note (.stale s.token a.age a.limit rejected))
      if rejected then pure (fail (a.failure s.token)) else pure (.ok ())

def involvedZones (c : Catalog) (zone : String) : List String :=
  match c.get? zone with
  | some g => g.memberIds
  | none => [zone]

def sourceFinding : Outcome ServedSnapshot → Option Finding
  | .ok served =>
      match served.sourceError with
      | none => some .healthy
      | some error => some (.degraded ("serving previous snapshot " ++ served.named.token ++ ": " ++ error))
  | .error (.failed failure) => some (.unhealthy failure.message)
  | .error _ => none

def baseSnapshot (setup : Setup) (sourceName : String) (token : Option Token) :
    Serve (Outcome NamedSnapshot) :=
  match token with
  | some token => pinnedSnapshot token
  | none => do
      let served ← currentSnapshot setup.settings.captureRules sourceName
      match sourceFinding served with
      | some finding => act (.find .featureSource finding)
      | none => pure ()
      pure (served.map (·.named))

/-- The snapshot that a request rests on. -/
def snapshotFor (setup : Setup) (sourceName zone : String) (o : Options) : Serve (Outcome NamedSnapshot) := do
  match ← baseSnapshot setup sourceName o.snapshot with
  | .error halt => pure (.error halt)
  | .ok base =>
      match ← checkFreshness setup.settings.captureRules base with
      | .error halt => pure (.error halt)
      | .ok () => do
          let s ← deriveSnapshot base (involvedZones setup.catalog zone) o.overrides
          pure (.ok s)

end GridLoad
