/-!
The fewest decimal digits that read back as a given double. A positive double is `mantissa * 2 ^ exponent`;
the reals that round to it form an interval around it, closed exactly when the mantissa is even. Decimal
grids are tried from coarse to fine, and the first one with a point in the interval gives the digits.
-/

set_option autoImplicit false

namespace GridLoad.Decimal

/-- A positive double: `mantissa * 2 ^ exponent`. -/
structure Binary where
  mantissa : Nat
  exponent : Int
  deriving DecidableEq

structure Scaled where
  digits : Nat
  exponent : Int
  deriving DecidableEq

def isNegative (x : Float) : Bool := x.toBits >>> 63 = 1

-- Magnitude of a finite double: a subnormal one has no implicit leading bit.
def binary (x : Float) : Binary :=
  let biased := (x.toBits >>> 52).toNat % 2048
  let fraction := x.toBits.toNat % Nat.pow 2 52
  if biased = 0 then ⟨fraction, -1074⟩ else ⟨Nat.pow 2 52 + fraction, biased - 1075⟩

/-- Bounds of the reals that round to a double, in quarters of its last place: the gap below a power of
two is half as wide, save at the smallest exponent. -/
structure Interval where
  low : Nat
  value : Nat
  high : Nat
  closed : Bool

def Binary.interval (b : Binary) : Interval where
  low := 4 * b.mantissa - (if b.mantissa = Nat.pow 2 52 ∧ b.exponent ≠ -1074 then 1 else 2)
  value := 4 * b.mantissa
  high := 4 * b.mantissa + 2
  closed := b.mantissa % 2 = 0

-- `x * 2 ^ twos * 10 ^ tens` as a fraction, its two factors to be spread over numerator and denominator.
def scaleUp (twos tens : Int) : Nat := Nat.pow 2 twos.toNat * Nat.pow 10 tens.toNat

inductive Tie where
  | toEven
  | up
  deriving DecidableEq

def Binary.holds (b : Binary) (grid : Int) (d : Nat) : Bool :=
  let i := b.interval
  let numerator := scaleUp (b.exponent - 2) (-grid)
  let denominator := scaleUp (2 - b.exponent) grid
  if i.closed then i.low * numerator ≤ d * denominator ∧ d * denominator ≤ i.high * numerator
  else i.low * numerator < d * denominator ∧ d * denominator < i.high * numerator

-- The point of the grid of multiples of `10 ^ grid` that lies in the interval, the nearer of two.
def gridPoint (b : Binary) (tie : Tie) (grid : Int) : Option Nat :=
  let value := b.interval.value * scaleUp (b.exponent - 2) (-grid)
  let denominator := scaleUp (2 - b.exponent) grid
  let below := value / denominator
  let above := below + 1
  let fromBelow := value - below * denominator
  let toAbove := above * denominator - value
  let lower := b.holds grid below ∧ 0 < below
  if lower ∧ b.holds grid above then
    if fromBelow < toAbove then some below
    else if toAbove < fromBelow then some above
    else match tie with
      | .up => some above
      | .toEven => some (if below % 2 = 0 then below else above)
  else if lower then some below
  else if b.holds grid above then some above
  else none

-- Searches ever finer grids. Seventeen digits always suffice, so the count is never the one that ends it.
def search (b : Binary) (tie : Tie) : Nat → Int → Scaled
  | 0, grid => ⟨b.interval.value * scaleUp (b.exponent - 2) (-grid) / scaleUp (2 - b.exponent) grid, grid⟩
  | count + 1, grid =>
      match gridPoint b tie grid with
      | some digits => ⟨digits, grid⟩
      | none => search b tie count (grid - 1)

-- A power of ten at least as large as the value, and at most a thousand times as large.
def coarsest (b : Binary) : Int :=
  (((Nat.log2 b.mantissa : Int) + b.exponent) * 30103) / 100000 + 2

/-- Fewest digits of a positive double. -/
def shortest (b : Binary) (tie : Tie) : Scaled := search b tie 24 (coarsest b)

end GridLoad.Decimal
