/-!
Sums in the order of their terms, over any kind of number: doubles where forecasts are computed, exact
numbers where their laws are studied.
-/

set_option autoImplicit false

namespace GridLoad

variable {α : Type} [Add α] [Neg α] [OfNat α 0]

-- Sum from the left. It starts at negative zero, which every term leaves behind.
def total (terms : List α) : α := terms.foldl (· + ·) (-0)

def weightedTotal [Mul α] (parts : List (α × α)) : α := total (parts.map fun p => p.1 * p.2)

end GridLoad
