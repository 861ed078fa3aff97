import GridLoad.Time.Calendar

/-!
Instants in universal time, to the nanosecond. A leap second belongs to the second before it and has a
nanosecond count of a thousand million or more.
-/

set_option autoImplicit false

namespace GridLoad.Time

structure Timestamp where
  -- Seconds since 1970-01-01T00:00:00Z, leap seconds not counted.
  seconds : Int
  nanos : Nat
  deriving DecidableEq

namespace Timestamp

def perDay : Int := 86400

def perSecond : Nat := 1000000000

def day (t : Timestamp) : Int := t.seconds / perDay

def secondOfDay (t : Timestamp) : Nat := (t.seconds % perDay).toNat

def hourOfDay (t : Timestamp) : Nat := t.secondOfDay / 3600

def weekday (t : Timestamp) : Nat := Time.weekday t.day

def isLeapSecond (t : Timestamp) : Bool := perSecond ≤ t.nanos

def inRange (t : Timestamp) : Bool := leastDay ≤ t.day && t.day ≤ greatestDay

/-- The instant some hours later, unless it lies past the last day that can be held. A leap second has no
later counterpart and counts as the second before it. -/
def addHours? (t : Timestamp) (hours : Nat) : Option Timestamp :=
  let nanos := if 0 < hours && t.isLeapSecond then t.nanos - perSecond else t.nanos
  let later : Timestamp := ⟨t.seconds + 3600 * hours, nanos⟩
  if later.day ≤ greatestDay then some later else none

-- Leap seconds between two instants, as far as their times of day tell: one that the earlier time of day lies in is
-- over at the later.
def leapsSince (t earlier : Timestamp) : Int :=
  if earlier.secondOfDay < t.secondOfDay && earlier.isLeapSecond then 1
  else if t.secondOfDay < earlier.secondOfDay && t.isLeapSecond then -1
  else 0

def secondsSince (t earlier : Timestamp) : Int :=
  let nanos : Int := (t.seconds - earlier.seconds + t.leapsSince earlier) * perSecond + (t.nanos - earlier.nanos)
  nanos.tdiv perSecond

end Timestamp

end GridLoad.Time
