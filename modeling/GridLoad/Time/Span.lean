import GridLoad.Time.Written
import GridLoad.Word

/-!
Lengths of time, and their text: the largest of seconds, milliseconds, microseconds and nanoseconds that
gives a whole part, with the fraction that is left.
-/

set_option autoImplicit false

namespace GridLoad.Time

-- Nanoseconds on a clock that never goes back.
abbrev Instant := Nat

structure Span where
  nanos : Nat
  deriving DecidableEq, Inhabited

namespace Span

def ofMillis (millis : Nat) : Span := ⟨millis * 1000000⟩

def ofSeconds (seconds : Nat) : Span := ⟨seconds * 1000000000⟩

-- Whole milliseconds as a word of 64 bits, which drops higher bits.
def millisWord (s : Span) : Nat := s.nanos / 1000000 % wordLimit 64

def min (a b : Span) : Span := if a.nanos ≤ b.nanos then a else b

-- Milliseconds, a begun one counted as whole.
def millisAbove (s : Span) : Nat := (s.nanos + 999999) / 1000000

def double (s : Span) : Span := ⟨2 * s.nanos⟩

def quarter (s : Span) : Span := ⟨s.nanos / 4⟩

def fractionDigits (width fraction : Nat) : List Char :=
  ((padded width fraction).reverse.dropWhile (· = '0')).reverse

def inUnits (nanos width : Nat) (unit : String) : String :=
  let fraction := fractionDigits width (nanos % Nat.pow 10 width)
  String.ofList (Nat.toDigits 10 (nanos / Nat.pow 10 width) ++
    (if fraction.isEmpty then [] else '.' :: fraction)) ++ unit

def text (s : Span) : String :=
  if 1000000000 ≤ s.nanos then inUnits s.nanos 9 "s"
  else if 1000000 ≤ s.nanos then inUnits s.nanos 6 "ms"
  else if 1000 ≤ s.nanos then inUnits s.nanos 3 "µs"
  else inUnits s.nanos 0 "ns"

end Span

end GridLoad.Time
