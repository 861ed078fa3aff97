import GridLoad.Cache.Basic
import GridLoad.Feature.Captures
import GridLoad.Program
import GridLoad.Serving.Health
import GridLoad.Serving.Journal
import GridLoad.Serving.Tally
import GridLoad.Zone.Publication

/-!
What a request asks of the state that all requests share. An act is answered at once; a wait may have to go
on until something else has happened, and is given up when the request runs out of time.
-/

set_option autoImplicit false

namespace GridLoad

open GridLoad.Time (Span Timestamp)

inductive Look where
  | fresh (s : NamedSnapshot)
  -- A refresh runs; `previous` can be served instead.
  | refreshing (id : RefreshId) (previous : Option NamedSnapshot)

inductive Act where
  | registry
  | slot (key : Key)
  | leave (slot : SlotId) (computed : Option Prediction)
  | lastComputed (zone : String)
  | look
  -- Keeps a token for another period.
  | pin (s : NamedSnapshot)
  -- The snapshot of a token, and whether it has expired.
  | pinned (token : Token)
  | forget (token : Token)
  | wallTime
  | note (event : Event)
  | count (counter : Counter)
  | find (component : Component) (finding : Finding)
  | health
  | endReload
  | generation
  | publish (r : Registry)
  -- Drops what was computed with other registries, and counts it.
  | retain (generation : Nat)
  | gauge (r : Registry)
  | purgeCache
  | pinCount
  | dropPins
  | series

abbrev Act.Answer : Act → Type
  | .registry => Registry
  | .slot _ => SlotId
  | .leave _ _ => Unit
  | .lastComputed _ => Option Timestamp
  | .look => Look
  | .pin _ => Unit
  | .pinned _ => Option (NamedSnapshot × Bool)
  | .forget _ => Unit
  | .wallTime => Timestamp
  | .note _ => Unit
  | .count _ => Unit
  | .find _ _ => Unit
  | .health => Health
  | .endReload => Unit
  | .generation => Nat
  | .publish _ => Unit
  | .retain _ => Nat
  | .gauge _ => Unit
  | .purgeCache => Nat
  | .pinCount => Nat
  | .dropPins => Unit
  | .series => List (String × Int)

inductive Wait where
  | enter (slot : SlotId)
  -- For the report of a refresh, no longer than `patience`.
  | refreshed (id : RefreshId) (patience : Option Span)
  | reloadTurn
  | models (root : Path) (generation : Nat)

inductive Entered where
  | found (prediction : Prediction)
  | granted
  deriving DecidableEq

inductive Awaited where
  | report (report : Report)
  | late

abbrev Wait.Answer : Wait → Type
  | .enter _ => Entered
  | .refreshed _ _ => Awaited
  | .reloadTurn => Unit
  | .models _ _ => Except String Registry

inductive Question where
  | act (a : Act)
  | wait (w : Wait)

-- A wait without an answer was given up.
abbrev Question.Answer : Question → Type
  | .act a => a.Answer
  | .wait w => Option w.Answer

abbrev Serve (α : Type) : Type := Program Question.Answer α

def act (a : Act) : Serve a.Answer := Program.question (Question.act a)

def wait (w : Wait) : Serve (Option w.Answer) := Program.question (Question.wait w)

end GridLoad
