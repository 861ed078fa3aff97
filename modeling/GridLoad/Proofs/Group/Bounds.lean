import GridLoad.Group.Combination
import GridLoad.Proofs.Decimal.Exact

/-!
The intervals of virtual zones in exact arithmetic: the steps of `aggregate` over any kind of number, which are its own
over doubles, and their laws over the reals. The combined half-width lies between the greatest half-width and the sum of
all, for any correlation that is accepted.
-/

set_option autoImplicit false

namespace GridLoad

open GridLoad.Time (Timestamp)

section

variable {α : Type} [Add α] [Sub α] [Mul α] [Neg α] [OfNat α 0] [LT α] [DecidableLT α]

def atLeastZero (x : α) : α := if x > 0 then x else 0

-- The combined half-width, for any kind of number that has roots.
def Combination.widthBy (root : α → α) (c : Combination α) (halfWidths : List α) : α :=
  match c with
  | .independent => root (c.radicand halfWidths)
  | .correlated _ => root (atLeastZero (c.radicand halfWidths))

-- The numbers of a forecast.
structure Estimate (α : Type) where
  lower : α
  point : α
  upper : α

namespace Estimate

def lowerHalf (e : Estimate α) : α := e.point - e.lower

def upperHalf (e : Estimate α) : α := e.upper - e.point

def width (e : Estimate α) : α := e.upper - e.lower

def addUp (root : α → α) (c : Combination α) (parts : List (Estimate α)) : Estimate α :=
  let point := total (parts.map (·.point))
  { lower := point - c.widthBy root (parts.map (·.lowerHalf))
    point := point
    upper := point + c.widthBy root (parts.map (·.upperHalf)) }

end Estimate

end

def Prediction.estimate (p : Prediction) : Estimate Float := ⟨p.lower, p.point, p.upper⟩

theorem half_width_by (c : Combination) (halfWidths : List Float) :
    c.halfWidth halfWidths = c.widthBy Float.sqrt halfWidths := by
  cases c <;> rfl

theorem aggregate_adds_up (group : String) (horizon : Nat) (token : Token) (c : Combination)
    (parts : List (Prediction × Float)) (now : Timestamp) :
    (aggregate group horizon token c parts now).estimate =
      .addUp Float.sqrt c (parts.map fun p => p.1.estimate) := by
  simp only [Prediction.estimate, aggregate, Estimate.addUp, half_width_by, List.map_map]
  rfl

namespace Combination

-- The correlation as the number that it is.
noncomputable def exact : Combination → Combination ℝ
  | .independent => .independent
  | .correlated c => .correlated (Decimal.exact c : ℚ)

-- Independent errors have none.
noncomputable def correlation : Combination ℝ → ℝ
  | .independent => 0
  | .correlated c => c

-- The correlation lies between none and full.
def Proper (c : Combination ℝ) : Prop := 0 ≤ c.correlation ∧ c.correlation ≤ 1

end Combination

def Estimate.Ordered (e : Estimate ℝ) : Prop := e.lower ≤ e.point ∧ e.point ≤ e.upper

section

variable {c : Combination ℝ} {hs hs' : List ℝ} {h : ℝ}

theorem accepted_proper {c : Combination} (accepted : c.validate = .ok ()) : c.exact.Proper := by
  cases c with
  | independent => exact ⟨le_refl _, zero_le_one⟩
  | correlated ρ =>
      simp only [Combination.validate] at accepted
      split at accepted
      · rename_i within
        simp only [Bool.and_eq_true, decide_eq_true_eq] at within
        obtain ⟨⟨finite, low⟩, high⟩ := within
        have least := (Decimal.le_iff_exact (by rfl) finite).mp low
        have greatest := (Decimal.le_iff_exact finite (by rfl)).mp high
        rw [Decimal.exact_zero] at least
        rw [Decimal.exact_one] at greatest
        have below : ((Decimal.exact ρ : ℚ) : ℝ) ≤ 1 := by exact_mod_cast greatest
        exact ⟨Rat.cast_nonneg.mpr least, below⟩
      · cases accepted

theorem total_sum (hs : List ℝ) : total hs = hs.sum := by
  rw [List.sum_eq_foldl, total, neg_zero]

theorem squares_sum (hs : List ℝ) : Combination.squares hs = (hs.map (· ^ 2)).sum := by
  simp only [Combination.squares, total_sum, pow_two]

theorem radicand_eq (c : Combination ℝ) (hs : List ℝ) :
    c.radicand hs = Combination.squares hs + c.correlation * (total hs ^ 2 - Combination.squares hs) := by
  cases c with
  | independent => simp [Combination.radicand, Combination.correlation]
  | correlated ρ => simp only [Combination.radicand, Combination.correlation, pow_two]

theorem terms_nonneg (hs : List ℝ) : ∀ x ∈ hs.map (· ^ 2), 0 ≤ x :=
  List.forall_mem_map.mpr fun h _ => sq_nonneg h

theorem square_le_squares (member : h ∈ hs) : h ^ 2 ≤ Combination.squares hs := by
  rw [squares_sum]
  exact List.single_le_sum (terms_nonneg hs) _ (List.mem_map_of_mem member)

theorem squares_nonneg (hs : List ℝ) : 0 ≤ Combination.squares hs := by
  rw [squares_sum]
  exact List.sum_nonneg (terms_nonneg hs)

-- What is missing from the sum of squares are the products of different terms.
theorem squares_le_square (nonneg : ∀ h ∈ hs, 0 ≤ h) : Combination.squares hs ≤ total hs ^ 2 := by
  rw [squares_sum, total_sum]
  induction hs with
  | nil => simp
  | cons h hs ih =>
      obtain ⟨first, others⟩ := List.forall_mem_cons.mp nonneg
      have cross : 0 ≤ h * hs.sum := mul_nonneg first (List.sum_nonneg others)
      rw [List.map_cons, List.sum_cons, List.sum_cons]
      linarith [ih others, add_sq h hs.sum]

theorem squares_le_radicand (proper : c.Proper) (nonneg : ∀ h ∈ hs, 0 ≤ h) :
    Combination.squares hs ≤ c.radicand hs := by
  rw [radicand_eq]
  exact le_add_of_nonneg_right (mul_nonneg proper.1 (sub_nonneg.mpr (squares_le_square nonneg)))

theorem radicand_le_square (proper : c.Proper) (nonneg : ∀ h ∈ hs, 0 ≤ h) : c.radicand hs ≤ total hs ^ 2 := by
  have share := mul_le_of_le_one_left (sub_nonneg.mpr (squares_le_square nonneg)) proper.2
  rw [radicand_eq]
  linarith

theorem radicand_nonneg (proper : c.Proper) (nonneg : ∀ h ∈ hs, 0 ≤ h) : 0 ≤ c.radicand hs :=
  (squares_nonneg hs).trans (squares_le_radicand proper nonneg)

theorem at_least_zero_idle {x : ℝ} (nonneg : 0 ≤ x) : atLeastZero x = x := by
  rcases nonneg.eq_or_lt with rfl | positive
  · exact if_neg (lt_irrefl 0)
  · exact if_pos positive

theorem radicand_perm (c : Combination ℝ) (same : hs.Perm hs') : c.radicand hs = c.radicand hs' := by
  rw [radicand_eq, radicand_eq, squares_sum, squares_sum, total_sum, total_sum, same.sum_eq, (same.map _).sum_eq]

theorem radicand_correlation {ρ ρ' : ℝ} (less : ρ ≤ ρ') (nonneg : ∀ h ∈ hs, 0 ≤ h) :
    (Combination.correlated ρ).radicand hs ≤ (Combination.correlated ρ').radicand hs := by
  rw [radicand_eq, radicand_eq]
  exact add_le_add_right (mul_le_mul_of_nonneg_right less (sub_nonneg.mpr (squares_le_square nonneg))) _

theorem squares_mono (nonneg : ∀ h ∈ hs, 0 ≤ h) (less : List.Forall₂ (· ≤ ·) hs hs') :
    Combination.squares hs ≤ Combination.squares hs' := by
  rw [squares_sum, squares_sum]
  induction less with
  | nil => exact le_refl _
  | cons first _ ih =>
      obtain ⟨positive, others⟩ := List.forall_mem_cons.mp nonneg
      simp only [List.map_cons, List.sum_cons]
      exact add_le_add (pow_le_pow_left₀ positive first 2) (ih others)

-- Both shares of the blend grow with the half-widths.
theorem radicand_mono (proper : c.Proper) (nonneg : ∀ h ∈ hs, 0 ≤ h) (less : List.Forall₂ (· ≤ ·) hs hs') :
    c.radicand hs ≤ c.radicand hs' := by
  have squares := mul_le_mul_of_nonneg_left (squares_mono nonneg less) (sub_nonneg.mpr proper.2)
  have sums : total hs ^ 2 ≤ total hs' ^ 2 := by
    rw [total_sum, total_sum]
    exact pow_le_pow_left₀ (List.sum_nonneg nonneg) less.sum_le_sum 2
  have square := mul_le_mul_of_nonneg_left sums proper.1
  rw [radicand_eq, radicand_eq]
  linarith

theorem width_root (proper : c.Proper) (nonneg : ∀ h ∈ hs, 0 ≤ h) :
    c.widthBy Real.sqrt hs = √(c.radicand hs) := by
  cases c with
  | independent => rfl
  | correlated ρ => rw [Combination.widthBy, at_least_zero_idle (radicand_nonneg proper nonneg)]

theorem le_width (proper : c.Proper) (nonneg : ∀ h ∈ hs, 0 ≤ h) (member : h ∈ hs) : h ≤ c.widthBy Real.sqrt hs := by
  rw [width_root proper nonneg]
  exact Real.le_sqrt_of_sq_le ((square_le_squares member).trans (squares_le_radicand proper nonneg))

theorem width_le_total (proper : c.Proper) (nonneg : ∀ h ∈ hs, 0 ≤ h) : c.widthBy Real.sqrt hs ≤ total hs := by
  have positive : 0 ≤ total hs := total_sum hs ▸ List.sum_nonneg nonneg
  rw [width_root proper nonneg]
  exact (Real.sqrt_le_left positive).mpr (radicand_le_square proper nonneg)

theorem width_nonneg (proper : c.Proper) (nonneg : ∀ h ∈ hs, 0 ≤ h) : 0 ≤ c.widthBy Real.sqrt hs := by
  rw [width_root proper nonneg]
  exact Real.sqrt_nonneg _

variable {parts : List (Estimate ℝ)} {e : Estimate ℝ}

theorem halves_nonneg (ordered : ∀ e ∈ parts, e.Ordered) :
    (∀ h ∈ parts.map (·.lowerHalf), 0 ≤ h) ∧ ∀ h ∈ parts.map (·.upperHalf), 0 ≤ h := by
  simp only [List.forall_mem_map]
  exact ⟨fun e member => sub_nonneg.mpr (ordered e member).1, fun e member => sub_nonneg.mpr (ordered e member).2⟩

theorem halves_width (e : Estimate ℝ) : e.lowerHalf + e.upperHalf = e.width := by
  simp only [Estimate.lowerHalf, Estimate.upperHalf, Estimate.width]
  ring

theorem total_widths (parts : List (Estimate ℝ)) :
    total (parts.map (·.lowerHalf)) + total (parts.map (·.upperHalf)) = total (parts.map (·.width)) := by
  simp only [total_sum, ← List.sum_map_add, halves_width]

theorem whole_width (c : Combination ℝ) (parts : List (Estimate ℝ)) :
    (Estimate.addUp Real.sqrt c parts).width =
      c.widthBy Real.sqrt (parts.map (·.lowerHalf)) + c.widthBy Real.sqrt (parts.map (·.upperHalf)) := by
  simp only [Estimate.width, Estimate.addUp]
  ring

theorem whole_ordered (proper : c.Proper) (ordered : ∀ e ∈ parts, e.Ordered) :
    (Estimate.addUp Real.sqrt c parts).Ordered := by
  obtain ⟨lower, upper⟩ := halves_nonneg ordered
  exact ⟨sub_le_self _ (width_nonneg proper lower), le_add_of_nonneg_right (width_nonneg proper upper)⟩

theorem part_within (proper : c.Proper) (ordered : ∀ e ∈ parts, e.Ordered) (member : e ∈ parts) :
    e.width ≤ (Estimate.addUp Real.sqrt c parts).width := by
  obtain ⟨lower, upper⟩ := halves_nonneg ordered
  rw [whole_width, ← halves_width]
  exact add_le_add (le_width proper lower (List.mem_map_of_mem member))
    (le_width proper upper (List.mem_map_of_mem member))

theorem whole_within (proper : c.Proper) (ordered : ∀ e ∈ parts, e.Ordered) :
    (Estimate.addUp Real.sqrt c parts).width ≤ total (parts.map (·.width)) := by
  obtain ⟨lower, upper⟩ := halves_nonneg ordered
  rw [whole_width, ← total_widths]
  exact add_le_add (width_le_total proper lower) (width_le_total proper upper)

/--
The numbers of a virtual zone's forecast come from steps that any kind of number can go through, here the reals. For
every correlation that is accepted and non-negative half-widths, the square of the combined half-width lies between the
square of each and the square of their sum, so that it is never cut off at zero. It does not depend on the order of the
constituents, grows with the correlation and with each half-width, and is that of independent errors for no correlation
and the square of the sum for a full one. Forecasts with ordered bounds add up to one with ordered bounds, whose width
lies between that of each and the sum of all.
-/
theorem combined_bounds :
    (∀ (group : String) (horizon : Nat) (token : Token) (c : Combination) (parts : List (Prediction × Float))
      (now : Timestamp), (aggregate group horizon token c parts now).estimate =
        .addUp Float.sqrt c (parts.map fun p => p.1.estimate)) ∧
    (∀ c : Combination, c.validate = .ok () → c.exact.Proper) ∧
    (∀ (c : Combination ℝ) (hs : List ℝ), c.Proper → (∀ h ∈ hs, 0 ≤ h) →
      (∀ h ∈ hs, h ^ 2 ≤ c.radicand hs) ∧ c.radicand hs ≤ total hs ^ 2 ∧
      atLeastZero (c.radicand hs) = c.radicand hs ∧ c.widthBy Real.sqrt hs = √(c.radicand hs)) ∧
    (∀ (c : Combination ℝ) (hs hs' : List ℝ), hs.Perm hs' → c.radicand hs = c.radicand hs') ∧
    (∀ (ρ ρ' : ℝ) (hs : List ℝ), ρ ≤ ρ' → (∀ h ∈ hs, 0 ≤ h) →
      (Combination.correlated ρ).radicand hs ≤ (Combination.correlated ρ').radicand hs) ∧
    (∀ (c : Combination ℝ) (hs hs' : List ℝ), c.Proper → (∀ h ∈ hs, 0 ≤ h) → List.Forall₂ (· ≤ ·) hs hs' →
      c.radicand hs ≤ c.radicand hs') ∧
    (∀ hs : List ℝ, (Combination.correlated 0).radicand hs = Combination.independent.radicand hs ∧
      (Combination.correlated 1).radicand hs = total hs ^ 2) ∧
    (∀ (c : Combination ℝ) (parts : List (Estimate ℝ)), c.Proper → (∀ e ∈ parts, e.Ordered) →
      (Estimate.addUp Real.sqrt c parts).Ordered ∧
      (∀ e ∈ parts, e.width ≤ (Estimate.addUp Real.sqrt c parts).width) ∧
      (Estimate.addUp Real.sqrt c parts).width ≤ total (parts.map (·.width))) := by
  refine ⟨aggregate_adds_up, fun _ => accepted_proper, ?_, fun c _ _ => radicand_perm c, ?_, ?_, ?_, ?_⟩
  · intro c hs proper nonneg
    exact ⟨fun h member => (square_le_squares member).trans (squares_le_radicand proper nonneg),
      radicand_le_square proper nonneg, at_least_zero_idle (radicand_nonneg proper nonneg), width_root proper nonneg⟩
  · intro ρ ρ' hs
    exact radicand_correlation
  · intro c hs hs'
    exact radicand_mono
  · intro hs
    refine ⟨?_, ?_⟩
    · rw [radicand_eq, radicand_eq]
      rfl
    · rw [radicand_eq, Combination.correlation]
      ring
  · intro c parts proper ordered
    exact ⟨whole_ordered proper ordered, fun _ => part_within proper ordered, whole_within proper ordered⟩

end

namespace Sample

-- Half-widths of 300 and 400 MW whose errors have a correlation of one half.
theorem half_correlated_bounds :
    (Combination.correlated 0.5).validate = .ok () ∧ (Combination.correlated 0.5).exact.Proper ∧
    400 ≤ (Combination.correlated 0.5).exact.widthBy Real.sqrt [300, 400] ∧
    (Combination.correlated 0.5).exact.radicand [300, 400] ≤ total [300, 400] ^ 2 := by
  have accepted : (Combination.correlated 0.5).validate = .ok () := by rfl
  obtain ⟨_, proper, bounds, _⟩ := combined_bounds
  have nonneg : ∀ h ∈ [(300 : ℝ), 400], 0 ≤ h := by simp
  obtain ⟨squares, sum, _, root⟩ := bounds _ [300, 400] (proper _ accepted) nonneg
  refine ⟨accepted, proper _ accepted, ?_, sum⟩
  rw [root]
  exact Real.le_sqrt_of_sq_le (squares 400 (by simp))

end Sample

end GridLoad
