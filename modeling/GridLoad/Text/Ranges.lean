/-!
Character classes given by ranges of code points.
-/

set_option autoImplicit false

namespace GridLoad.Text

-- Inclusive ranges of code points, in increasing order.
abbrev Ranges := List (Nat × Nat)

def Ranges.has (ranges : Ranges) (c : Char) : Bool :=
  ranges.any fun r => r.1 ≤ c.toNat && c.toNat ≤ r.2

end GridLoad.Text
