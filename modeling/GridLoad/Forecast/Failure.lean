import GridLoad.Time.Span

/-!
Why a forecast cannot be given. Each failure has a kind, a message and, where a virtual zone failed through
one of its constituents, that constituent.
-/

set_option autoImplicit false

namespace GridLoad

open GridLoad.Time (Span)

inductive Failure where
  | noModel (zone : String)
  | corruptModel (zone reason : String)
  | invalidFeatures (zone reason : String)
  | horizonOutOfRange (zone : String) (horizon least greatest : Nat)
  -- A constituent of a virtual zone failed, and the virtual zone with it.
  | constituent (group member : String) (cause : Failure)
  -- A constituent answered from another snapshot or for another horizon.
  | snapshotMismatch (group member expected found : String)
  | stale (token : String) (age limit : Int)
  | unknownSnapshot (token : String)
  | timedOut (budget : Span)
  | source (reason : String)
  | configuration (reason : String)
  deriving DecidableEq

namespace Failure

def kind : Failure → String
  | .noModel .. => "model_not_found"
  | .corruptModel .. => "model_corrupt"
  | .invalidFeatures .. => "feature_validation"
  | .horizonOutOfRange .. => "horizon_out_of_range"
  | .constituent .. => "constituent_prediction"
  | .snapshotMismatch .. => "snapshot_mismatch"
  | .stale .. => "staleness"
  | .unknownSnapshot .. => "snapshot_not_found"
  | .timedOut .. => "timeout"
  | .source .. => "feature_source"
  | .configuration .. => "config"

def message : Failure → String
  | .noModel zone => "no model available for zone " ++ zone
  | .corruptModel zone reason => "model for zone " ++ zone ++ " is corrupt: " ++ reason
  | .invalidFeatures zone reason => "feature validation failed for zone " ++ zone ++ ": " ++ reason
  | .horizonOutOfRange zone horizon least greatest =>
      "horizon " ++ toString horizon ++ "h is outside the trained range " ++ toString least ++ "..=" ++
        toString greatest ++ "h for zone " ++ zone
  | .constituent group member cause =>
      "composite zone " ++ group ++ " unavailable: constituent " ++ member ++ " failed: " ++ cause.message
  | .snapshotMismatch group member expected found =>
      "composite zone " ++ group ++ ": constituent " ++ member ++ " used snapshot " ++ found ++
        ", expected " ++ expected
  | .stale token age limit =>
      "feature snapshot " ++ token ++ " is " ++ toString age ++ "s old (limit " ++ toString limit ++ "s)"
  | .unknownSnapshot token => "unknown or expired feature snapshot " ++ token
  | .timedOut budget => "request exceeded its " ++ budget.text ++ " budget"
  | .source reason => "feature source error: " ++ reason
  | .configuration reason => "configuration error: " ++ reason

-- The request itself was at fault, not the service.
def isCallerFault : Failure → Bool
  | .invalidFeatures .. => true
  | .horizonOutOfRange .. => true
  | .unknownSnapshot .. => true
  | _ => false

def failedConstituent : Failure → Option String
  | .constituent _ member _ => some member
  | .snapshotMismatch _ member _ _ => some member
  | _ => none

def root : Failure → Failure
  | .constituent _ _ cause => cause.root
  | failure => failure

def cause? : Failure → Option Failure
  | .constituent _ _ cause => some cause
  | _ => none

end Failure

/-- Why a computation ended without a value: a failure that is answered, a target time past the last day of
the calendar, at which the computation breaks off, or a wait that was longer than the request's budget. -/
inductive Halt where
  | failed (failure : Failure)
  | pastCalendar
  | outOfTime
  deriving DecidableEq

abbrev Outcome (α : Type) := Except Halt α

def fail {α : Type} (failure : Failure) : Outcome α := .error (.failed failure)

end GridLoad
