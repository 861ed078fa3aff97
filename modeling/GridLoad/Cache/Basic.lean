import GridLoad.Cache.Key
import GridLoad.Forecast.Prediction
import GridLoad.Time.Span

/-!
The cache of forecasts. A key owns a slot with a lock: the first call for the key computes while it holds the
lock, later calls wait for it and then read what was stored. Slots live on when the index drops them, for
calls that have them already. Each function here is one indivisible step.
-/

set_option autoImplicit false

namespace GridLoad

open GridLoad.Time (Instant Span Timestamp)

abbrev Caller := Nat

inductive Content where
  | empty
  | ready (prediction : Prediction) (expires : Instant)
  deriving DecidableEq

def Content.value? (now : Instant) : Content → Option Prediction
  | .empty => none
  | .ready p expires => if now < expires then some p else none

inductive Lock where
  | free
  | held (caller : Caller)
  -- The caller waited and is next to look into the slot.
  | handed (caller : Caller)
  deriving DecidableEq

structure Slot where
  key : Key
  content : Content := .empty
  lock : Lock := .free
  -- Callers that wait, the first of them for longest.
  waiting : List Caller := []
  deriving DecidableEq

namespace Slot

def release (s : Slot) : Slot :=
  match s.waiting with
  | [] => { s with lock := .free }
  | next :: rest => { s with lock := .handed next, waiting := rest }

-- Nobody computes it, and it holds nothing that can still be served.
def isIdle (now : Instant) (s : Slot) : Bool :=
  s.lock = .free && (s.content.value? now).isNone

end Slot

abbrev SlotId := Nat

structure CacheLimits where
  lifetime : Span := Span.ofSeconds 300
  -- Number of keys from which on a new one drops those that are idle.
  capacity : Nat := 10000
  deriving DecidableEq

instance : Inhabited CacheLimits := ⟨{}⟩

structure Cache where
  limits : CacheLimits := {}
  index : Table Key SlotId := .empty
  slots : List Slot := []
  lastComputed : Table String Timestamp := .empty
  hits : Nat := 0
  misses : Nat := 0
  coalesced : Nat := 0
  deriving DecidableEq

instance : Inhabited Cache := ⟨{}⟩

inductive Entry where
  | waits
  | found (prediction : Prediction)
  -- The caller now holds the lock and is to compute.
  | granted
  deriving DecidableEq

structure Cached where
  prediction : Prediction
  hit : Bool
  deriving DecidableEq

inductive SlotState where
  | empty
  | computing
  | ready
  deriving DecidableEq

def SlotState.name : SlotState → String
  | .empty => "empty"
  | .computing => "computing"
  | .ready => "ready"

namespace Cache

def size (c : Cache) : Nat := c.index.size

def change (c : Cache) (id : SlotId) (f : Slot → Slot) : Cache :=
  { c with slots := c.slots.modify id f }

def slot? (c : Cache) (key : Key) : Option Slot := (c.index.get? key).bind (c.slots[·]?)

-- Drops slots that are idle from the index.
def purge (now : Instant) (c : Cache) : Cache :=
  { c with index := c.index.filter fun _ id => !(c.slots[id]?.all (Slot.isIdle now)) }

/-- The slot of a key, which is made where there is none. -/
def slotFor (now : Instant) (key : Key) (c : Cache) : Cache × SlotId :=
  match c.index.get? key with
  | some id => (c, id)
  | none =>
      let c := if c.limits.capacity ≤ c.size then c.purge now else c
      let id := c.slots.length
      ({ c with slots := c.slots ++ [{ key := key }], index := c.index.insert key id }, id)

/-- Looks into a slot with its lock in hand. What has expired is dropped before it is computed anew, so that
a computation that is given up leaves the slot empty. -/
def look (now : Instant) (caller : Caller) (id : SlotId) (s : Slot) (c : Cache) : Cache × Entry :=
  match s.content.value? now with
  | some p => ({ c.change id Slot.release with hits := c.hits + 1 }, .found p)
  | none =>
      ({ c.change id fun s => { s with content := .empty, lock := .held caller } with misses := c.misses + 1 },
        .granted)

/-- Enters a slot, or lines up for it. -/
def enter (now : Instant) (caller : Caller) (id : SlotId) (c : Cache) : Cache × Entry :=
  match c.slots[id]? with
  | none => (c, .waits)
  | some s =>
      if s.lock = .free ∨ s.lock = .handed caller then c.look now caller id s
      else if s.waiting.contains caller then (c, .waits)
      else
        ({ c.change id fun s => { s with waiting := s.waiting ++ [caller] } with
            coalesced := c.coalesced + 1 }, .waits)

/-- Ends a computation, with the value to store if there is one. -/
def leave (now : Instant) (id : SlotId) (computed : Option Prediction) (c : Cache) : Cache :=
  match computed, c.slots[id]? with
  | some p, some s =>
      let c := c.change id fun s => { s with content := .ready p (now + c.limits.lifetime.nanos) }.release
      { c with lastComputed := c.lastComputed.insert s.key.zone p.generatedAt }
  | _, _ => c.change id Slot.release

-- Takes a caller out of the line, who passes on a lock that was handed to it.
def withdraw (caller : Caller) (id : SlotId) (c : Cache) : Cache :=
  c.change id fun s =>
    if s.lock = .handed caller then s.release
    else { s with waiting := s.waiting.filter (· ≠ caller) }

def retain (generation : Nat) (c : Cache) : Cache :=
  { c with index := c.index.filter fun key _ => key.generation = generation }

def clear (c : Cache) : Cache := { c with index := .empty }

def peek (now : Instant) (key : Key) (c : Cache) : Option Prediction :=
  match c.slot? key with
  | none => none
  | some s => if s.lock = .free then s.content.value? now else none

def state (now : Instant) (key : Key) (c : Cache) : SlotState :=
  match c.slot? key with
  | none => .empty
  | some s =>
      if s.lock ≠ .free then .computing
      else if (s.content.value? now).isSome then .ready
      else .empty

def statsJson (c : Cache) : Json :=
  .record [("entries", .nat c.size), ("hits", .nat c.hits), ("misses", .nat c.misses),
    ("coalesced", .nat c.coalesced)]

def lastComputed? (zone : String) (c : Cache) : Option Timestamp := c.lastComputed.get? zone

end Cache

end GridLoad
