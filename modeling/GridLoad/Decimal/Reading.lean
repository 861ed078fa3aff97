import GridLoad.Decimal.Shortest

/-!
From a decimal to the nearest double. Exponents far outside the range of doubles are answered without
forming the power of ten.
-/

set_option autoImplicit false

namespace GridLoad.Decimal

def infinity : Float := 1.0 / 0.0

-- The double nearest to a decimal; an infinity where that is too large.
def Scaled.toFloat (d : Scaled) : Float :=
  let leading : Int := d.exponent + (Nat.toDigits 10 d.digits).length
  if d.digits = 0 ∨ leading < -330 then 0.0
  else if 310 < leading then infinity
  else if 0 ≤ d.exponent then Float.ofScientific d.digits false d.exponent.toNat
  else Float.ofScientific d.digits true (-d.exponent).toNat

def digitValue (c : Char) : Nat := c.toNat - '0'.toNat

def natOfDigits (digits : List Char) : Nat := digits.foldl (fun n c => 10 * n + digitValue c) 0

def floatOfParts (negative : Bool) (whole fraction : List Char) (exponent : Int) : Float :=
  let magnitude := Scaled.toFloat ⟨natOfDigits (whole ++ fraction), exponent - fraction.length⟩
  if negative then -magnitude else magnitude

end GridLoad.Decimal
