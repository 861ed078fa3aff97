import GridLoad.Decimal.Shortest

/-!
How a double is written. One record holds the decisions of each written form: where positional notation
ends, whether a whole number keeps `.0`, and which way an exact tie goes.
-/

set_option autoImplicit false

namespace GridLoad.Decimal

structure Layout where
  -- Exponents of the leading digit that are written positionally; all of them when absent.
  positional : Option (Int × Int)
  keepPoint : Bool
  tie : Tie
  deriving DecidableEq

-- Numbers of stored and hashed documents: positional from `0.00001` to below `1e16`.
def stored : Layout := ⟨some (-5, 15), true, .toEven⟩

-- Numbers inside messages and labels: always positional, whole numbers bare.
def spoken : Layout := ⟨none, false, .up⟩

def zeros (count : Nat) : List Char := List.replicate count '0'

def digitsOf (n : Nat) : List Char := Nat.toDigits 10 n

def positionalText (keepPoint : Bool) (d : Scaled) : List Char :=
  let digits := digitsOf d.digits
  let leading : Int := d.exponent + digits.length
  if 0 ≤ d.exponent then
    digits ++ zeros d.exponent.toNat ++ (if keepPoint then ['.', '0'] else [])
  else if 0 < leading then
    digits.take leading.toNat ++ '.' :: digits.drop leading.toNat
  else
    '0' :: '.' :: zeros (-leading).toNat ++ digits

def exponentText (d : Scaled) : List Char :=
  let digits := digitsOf d.digits
  let exponent : Int := d.exponent + digits.length - 1
  let fraction := if 1 < digits.length then '.' :: digits.drop 1 else []
  digits.take 1 ++ fraction ++ 'e' :: (if exponent < 0 then '-' else '+') :: digitsOf exponent.natAbs

def Layout.magnitudeText (layout : Layout) (d : Scaled) : List Char :=
  let leading : Int := d.exponent + (digitsOf d.digits).length - 1
  match layout.positional with
  | none => positionalText layout.keepPoint d
  | some (least, greatest) =>
      if least ≤ leading ∧ leading ≤ greatest then positionalText layout.keepPoint d else exponentText d

def Layout.write (layout : Layout) (x : Float) : String :=
  if x.isNaN then "NaN"
  else
    let sign := if isNegative x then "-" else ""
    if x.isInf then sign ++ "inf"
    else
      let b := binary x
      let text := if b.mantissa = 0 then positionalText layout.keepPoint ⟨0, 0⟩
        else layout.magnitudeText (shortest b layout.tie)
      sign ++ String.ofList text

end GridLoad.Decimal
