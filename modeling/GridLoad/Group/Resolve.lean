import GridLoad.Group.Catalog
import GridLoad.Group.Combination
import GridLoad.Serving.Journal

/-!
The one way from a virtual zone to a value: its constituents are asked in declared order, and the first that
gives nothing, or something else than was asked for, fails the whole. How a constituent is asked is left to
the caller, who may do it in any monad.
-/

set_option autoImplicit false

namespace GridLoad

open GridLoad.Time (Timestamp)

def aim (token : Token) (horizon : Nat) : String := token ++ "@" ++ toString horizon ++ "h"

def checkMember (group : Group) (horizon : Nat) (token : Token) (m : Member) (p : Prediction) :
    Except Failure Unit :=
  if p.zone ≠ m.zone then
    .error (.constituent group.id m.zone
      (.corruptModel m.zone ("received a prediction for zone " ++ p.zone)))
  else if p.token ≠ token ∨ p.horizon ≠ horizon then
    .error (.snapshotMismatch group.id m.zone (aim token horizon) (aim p.token p.horizon))
  else .ok ()

structure Gathered where
  outcome : Outcome (List (Prediction × Float))
  events : List Event

section

variable {m : Type → Type} [Monad m]

def gather (ask : String → m (Outcome Prediction)) (group : Group) (horizon : Nat) (token : Token) :
    List Member → m Gathered
  | [] => pure ⟨.ok [], []⟩
  | member :: rest => do
      match ← ask member.zone with
      | .error (.failed failure) =>
          pure ⟨fail (.constituent group.id member.zone failure),
            [.memberFailed group.id member.zone horizon token failure.kind failure.message]⟩
      | .error halt => pure ⟨.error halt, []⟩
      | .ok p =>
          match checkMember group horizon token member p with
          | .error failure => pure ⟨fail failure, []⟩
          | .ok () =>
              let others ← gather ask group horizon token rest
              pure { others with outcome := others.outcome.map ((p, member.weight) :: ·) }

/-- Forecast of a virtual zone, with the events to put on record. -/
def groupForecast (combination : Combination) (ask : String → m (Outcome Prediction)) (group : Group)
    (horizon : Nat) (token : Token) (now : Timestamp) : m (Outcome Prediction × List Event) := do
  let gathered ← gather ask group horizon token group.members
  match gathered.outcome with
  | .error halt => pure (.error halt, gathered.events)
  | .ok parts =>
      let p := aggregate group.id horizon token combination parts now
      pure (.ok p, gathered.events ++ [.aggregated group.id horizon token group.memberIds p.point])

end

end GridLoad
