import GridLoad.Decimal.Reading
import GridLoad.Word

/-!
A decimal read in two roundings. At most a word of its digits is kept; that word is rounded to a double, and
the product or quotient with a power of ten is rounded again. The result lies within a few last places of the
nearest double, and is that double where the digits and the power are small.
-/

set_option autoImplicit false

namespace GridLoad.Decimal

-- Appends digits to a number while it fits a word of 64 bits; gives the number and the count of digits
-- from the first that does not fit.
def fill (word : Nat) : List Char → Nat × Nat
  | [] => (word, 0)
  | c :: rest =>
      let next := 10 * word + digitValue c
      if next < wordLimit 64 then fill next rest else (word, rest.length + 1)

-- What is kept of written digits. A digit left out before the point still counts as a place, one left
-- out after it does not.
def kept (whole fraction : List Char) : Scaled :=
  let (word, left) := fill 0 whole
  let (digits, unused) := fill word fraction
  ⟨digits, (left : Int) + unused - fraction.length⟩

def powerOfTen (exponent : Nat) : Float := Scaled.toFloat ⟨1, exponent⟩

def greatestPower : Nat := 308

def finite? (x : Float) : Option Float := if x.isInf then none else some x

/-- A magnitude of less than a word times a power of ten; none where that is too large. A division by more
than the greatest power takes two steps, and after those two nothing is left of any word. -/
def scaled? (x : Float) (exponent : Int) : Option Float :=
  if greatestPower < exponent then (if x == 0.0 then some 0.0 else none)
  else if 0 ≤ exponent then finite? (x * powerOfTen exponent.toNat)
  else if -greatestPower ≤ exponent then some (x / powerOfTen (-exponent).toNat)
  else if -(2 * greatestPower) ≤ exponent then
    some (x / powerOfTen greatestPower / powerOfTen (-exponent - greatestPower).toNat)
  else some 0.0

def stepwise? (negative : Bool) (whole fraction : List Char) (exponent : Int) : Option Float :=
  let d := kept whole fraction
  (scaled? (Scaled.toFloat ⟨d.digits, 0⟩) (d.exponent + exponent)).map fun x => if negative then -x else x

end GridLoad.Decimal
