import GridLoad.Sum

/-!
Confidence intervals around a point estimate, from the standard deviation of residuals.
-/

set_option autoImplicit false

namespace GridLoad

-- Two-sided normal quantile of a confidence level.
def quantile (level : Float) : Float :=
  if level ≥ 0.99 then 2.576
  else if level ≥ 0.95 then 1.96
  else if level ≥ 0.90 then 1.645
  else if level ≥ 0.80 then 1.282
  else 1.96

def bounds {α : Type} [Add α] [Sub α] [Mul α] (point std quantile : α) : α × α :=
  (point - quantile * std, point + quantile * std)

/-- Deviation of a weighted sum whose parts err together: the models of one zone learn from one history. -/
def ensembleStd {α : Type} [Add α] [Neg α] [Mul α] [OfNat α 0] (parts : List (α × α)) : α :=
  weightedTotal parts

end GridLoad
