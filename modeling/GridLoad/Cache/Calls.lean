import GridLoad.Cache.Basic
import GridLoad.Forecast.Failure

/-!
Calls on one cache, in any order: a call gets its slot, enters it or waits, computes, and ends or is dropped
on the way. Every step may be followed by a step of another call.
-/

set_option autoImplicit false

namespace GridLoad

open GridLoad.Time (Instant)

inductive CallPhase where
  | arrived (slot : SlotId)
  | computing (slot : SlotId)
  | ended (result : Except Failure Cached)
  | dropped

structure Calls where
  cache : Cache := {}
  phases : List CallPhase := []

instance : Inhabited Calls := ⟨{}⟩

namespace Calls

def setPhase (s : Calls) (call : Caller) (phase : CallPhase) : Calls :=
  { s with phases := s.phases.set call phase }

def arrive (now : Instant) (key : Key) (s : Calls) : Calls × Caller :=
  let (cache, slot) := s.cache.slotFor now key
  ({ s with cache := cache, phases := s.phases ++ [.arrived slot] }, s.phases.length)

def enter (now : Instant) (call : Caller) (s : Calls) : Calls :=
  match s.phases[call]? with
  | some (.arrived slot) =>
      let (cache, entry) := s.cache.enter now call slot
      let s := { s with cache := cache }
      match entry with
      | .waits => s
      | .found p => s.setPhase call (.ended (.ok ⟨p, true⟩))
      | .granted => s.setPhase call (.computing slot)
  | _ => s

def finish (now : Instant) (call : Caller) (outcome : Except Failure Prediction) (s : Calls) : Calls :=
  match s.phases[call]? with
  | some (.computing slot) =>
      { s with cache := s.cache.leave now slot outcome.toOption }.setPhase call
        (.ended (outcome.map fun p => ⟨p, false⟩))
  | _ => s

def drop (now : Instant) (call : Caller) (s : Calls) : Calls :=
  match s.phases[call]? with
  | some (.arrived slot) => { s with cache := s.cache.withdraw call slot }.setPhase call .dropped
  | some (.computing slot) => { s with cache := s.cache.leave now slot none }.setPhase call .dropped
  | _ => s

def isArrived : CallPhase → Bool
  | .arrived _ => true
  | _ => false

def pending (s : Calls) : List Caller :=
  (List.range s.phases.length).filter fun call => s.phases[call]?.any isArrived

-- Every call that can go on does, each as often as there are calls.
def settle (now : Instant) (s : Calls) : Calls :=
  (s.pending.flatMap fun _ => s.pending).foldl (fun s call => s.enter now call) s

def result? (s : Calls) (call : Caller) : Option (Except Failure Cached) :=
  match s.phases[call]? with
  | some (.ended result) => some result
  | _ => none

-- A call that is brought to its end at once, unless it would have to wait.
def callNow (now : Instant) (key : Key) (outcome : Except Failure Prediction) (s : Calls) :
    Calls × Option (Except Failure Cached) :=
  let (s, call) := s.arrive now key
  let s := (s.enter now call).finish now call outcome
  (s.drop now call, s.result? call)

end Calls

end GridLoad
