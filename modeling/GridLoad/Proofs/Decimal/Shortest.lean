import Mathlib.Algebra.Order.Field.Power
import Mathlib.Data.Rat.Cast.Order
import Mathlib.Tactic.Linarith
import Mathlib.Tactic.NormNum
import Mathlib.Tactic.Ring
import GridLoad.Decimal.Shortest

/-!
The fewest digits of a double round to it, and to no other double.
-/

set_option autoImplicit false

namespace GridLoad.Decimal

-- As doubles are: all bits of the mantissa are in use, save at the least exponent.
structure Binary.Canonical (b : Binary) : Prop where
  mantissa : b.mantissa < Nat.pow 2 53
  least : -1074 ≤ b.exponent
  greatest : b.exponent ≤ 972
  normal : b.exponent ≠ -1074 → Nat.pow 2 52 ≤ b.mantissa

def Scaled.value (d : Scaled) : ℚ := d.digits * (10 : ℚ) ^ d.exponent

-- A quarter of the last place.
def Binary.quarter (b : Binary) : ℚ := (2 : ℚ) ^ (b.exponent - 2)

-- A number rounds to a double.
def Binary.Takes (b : Binary) (q : ℚ) : Prop :=
  if b.interval.closed then b.interval.low * b.quarter ≤ q ∧ q ≤ b.interval.high * b.quarter
  else b.interval.low * b.quarter < q ∧ q < b.interval.high * b.quarter

section

variable {b c : Binary} {q : ℚ}

theorem quarter_pos (b : Binary) : 0 < b.quarter := zpow_pos (by norm_num) _

theorem takes_bounds (takes : b.Takes q) :
    b.interval.low * b.quarter ≤ q ∧ q ≤ b.interval.high * b.quarter := by
  unfold Binary.Takes at takes
  split at takes
  · exact takes
  · exact ⟨takes.1.le, takes.2.le⟩

theorem takes_inner (takes : b.Takes q) (odd : b.mantissa % 2 = 1) :
    b.interval.low * b.quarter < q ∧ q < b.interval.high * b.quarter := by
  have open_ : b.interval.closed = false := by simp [Binary.interval, odd]
  unfold Binary.Takes at takes
  rw [open_] at takes
  exact takes

theorem low_bound (b : Binary) : 4 * b.mantissa ≤ b.interval.low + 2 := by
  simp only [Binary.interval]
  split <;> omega

theorem low_bound_power (power : b.mantissa = Nat.pow 2 52) (above : b.exponent ≠ -1074) :
    b.interval.low = 4 * Nat.pow 2 52 - 1 := by
  simp [Binary.interval, power, above]

-- Neighbours touch where an interval that is closed meets one that is open.
theorem takes_mantissa (takes : b.Takes q) (takes' : c.Takes q) (same : b.exponent = c.exponent) :
    c.mantissa ≤ b.mantissa := by
  by_contra more
  have less : b.mantissa < c.mantissa := by omega
  have unit : c.quarter = b.quarter := by rw [Binary.quarter, Binary.quarter, same]
  have positive := quarter_pos b
  have meet : (c.interval.low : ℚ) ≤ b.interval.high := by
    have bound := (takes_bounds takes').1.trans (takes_bounds takes).2
    rw [unit] at bound
    exact le_of_mul_le_mul_right bound positive
  have meet' : c.interval.low ≤ 4 * b.mantissa + 2 := by exact_mod_cast meet
  have next : c.mantissa = b.mantissa + 1 := by
    have bound := low_bound c
    omega
  have wide : c.interval.low = 4 * b.mantissa + 2 := by
    have bound := low_bound c
    omega
  have touch : (c.interval.low : ℚ) * c.quarter = b.interval.high * b.quarter := by
    rw [unit, wide]
    rfl
  rcases Nat.mod_two_eq_zero_or_one b.mantissa with even | odd
  · have odd' : c.mantissa % 2 = 1 := by omega
    have above := (takes_inner takes' odd').1
    have below := (takes_bounds takes).2
    linarith
  · have below := (takes_inner takes odd).2
    have above := (takes_bounds takes').1
    linarith

-- The interval of a power of two is narrower below, so that it begins where the finer doubles end.
theorem takes_exponent (canonical : b.Canonical) (canonical' : c.Canonical) (takes : b.Takes q) (takes' : c.Takes q) :
    c.exponent ≤ b.exponent := by
  by_contra more
  have less : b.exponent < c.exponent := by omega
  have apart : c.exponent ≠ -1074 := by
    have least := canonical.least
    omega
  have full := canonical'.normal apart
  have short := canonical.mantissa
  have coarser : 2 * b.quarter ≤ c.quarter := by
    have grown : (2 : ℚ) ^ (b.exponent - 2 + 1) ≤ 2 ^ (c.exponent - 2) :=
      zpow_le_zpow_right₀ (by norm_num) (by omega)
    rw [zpow_add_one₀ (by norm_num)] at grown
    rw [Binary.quarter, Binary.quarter]
    linarith
  have positive := quarter_pos b
  have begins : (c.interval.low : ℚ) * (2 * b.quarter) ≤ q :=
    (mul_le_mul_of_nonneg_left coarser (Nat.cast_nonneg _)).trans (takes_bounds takes').1
  have meet : (c.interval.low : ℚ) * 2 ≤ b.interval.high := by
    have bound := begins.trans (takes_bounds takes).2
    have grouped : (c.interval.low : ℚ) * 2 * b.quarter ≤ b.interval.high * b.quarter := by linarith
    exact le_of_mul_le_mul_right grouped positive
  have meet' : c.interval.low * 2 ≤ 4 * b.mantissa + 2 := by exact_mod_cast meet
  have bound := low_bound c
  simp only [Nat.pow_eq, Nat.reducePow] at full short
  by_cases power : c.mantissa = Nat.pow 2 52
  · have low := low_bound_power power apart
    simp only [Nat.pow_eq, Nat.reducePow] at low
    have odd : b.mantissa % 2 = 1 := by omega
    have below := (takes_inner takes odd).2
    have touch : (b.interval.high : ℚ) = c.interval.low * 2 := by
      have equal : b.interval.high = c.interval.low * 2 := by
        show 4 * b.mantissa + 2 = _
        omega
      exact_mod_cast equal
    rw [touch] at below
    linarith
  · simp only [Nat.pow_eq, Nat.reducePow] at power
    omega

-- A number rounds to one double at most.
theorem takes_once (canonical : b.Canonical) (canonical' : c.Canonical) (takes : b.Takes q) (takes' : c.Takes q) :
    b = c := by
  have exponent : b.exponent = c.exponent :=
    le_antisymm (takes_exponent canonical' canonical takes' takes) (takes_exponent canonical canonical' takes takes')
  have mantissa : b.mantissa = c.mantissa :=
    le_antisymm (takes_mantissa takes' takes exponent.symm) (takes_mantissa takes takes' exponent)
  cases b
  cases c
  cases mantissa
  cases exponent
  rfl

end

section

variable {b : Binary} {tie : Tie} {grid : Int} {digits : Nat}

theorem power_split (base : ℚ) (nonzero : base ≠ 0) (z : Int) :
    base ^ z.toNat = base ^ (-z).toNat * base ^ z := by
  rw [← zpow_natCast, ← zpow_natCast, ← zpow_add₀ nonzero]
  congr 1
  omega

-- The two sides of a comparison, without their fractions.
theorem scale_up_split (twos tens : Int) :
    (scaleUp twos (-tens) : ℚ) * 10 ^ tens = scaleUp (-twos) tens * 2 ^ twos := by
  have two := power_split 2 (by norm_num) twos
  have ten := power_split 10 (by norm_num) tens
  simp only [scaleUp, Nat.pow_eq, Nat.cast_mul, Nat.cast_pow, Nat.cast_ofNat]
  rw [two, ten]
  ring

theorem scale_up_pos (twos tens : Int) : 0 < scaleUp twos tens := by
  simp only [scaleUp, Nat.pow_eq]
  positivity

-- Numerator and denominator are the units of the two sides, up to a common factor.
theorem common_factor (b : Binary) (grid : Int) : ∃ factor : ℚ, 0 < factor ∧
    (scaleUp (b.exponent - 2) (-grid) : ℚ) = b.quarter * factor ∧
    (scaleUp (2 - b.exponent) grid : ℚ) = 10 ^ grid * factor := by
  have ten : (0 : ℚ) < 10 ^ grid := zpow_pos (by norm_num) _
  have side : (0 : ℚ) < scaleUp (2 - b.exponent) grid := by exact_mod_cast scale_up_pos _ _
  refine ⟨scaleUp (2 - b.exponent) grid / 10 ^ grid, div_pos side ten, ?_, (mul_div_cancel₀ _ ten.ne').symm⟩
  have split := scale_up_split (b.exponent - 2) grid
  rw [show -(b.exponent - 2) = 2 - b.exponent by ring] at split
  rw [← mul_div_assoc, eq_div_iff ten.ne', split, Binary.quarter, mul_comm]

theorem scaled_le_iff (b : Binary) (grid : Int) (x y : Nat) :
    x * scaleUp (b.exponent - 2) (-grid) ≤ y * scaleUp (2 - b.exponent) grid ↔
      (x : ℚ) * b.quarter ≤ y * 10 ^ grid := by
  obtain ⟨factor, positive, numerator, denominator⟩ := common_factor b grid
  rw [← mul_le_mul_iff_left₀ positive, mul_assoc, mul_assoc, ← numerator, ← denominator]
  exact_mod_cast Iff.rfl

theorem scaled_ge_iff (b : Binary) (grid : Int) (x y : Nat) :
    y * scaleUp (2 - b.exponent) grid ≤ x * scaleUp (b.exponent - 2) (-grid) ↔
      (y : ℚ) * 10 ^ grid ≤ x * b.quarter := by
  obtain ⟨factor, positive, numerator, denominator⟩ := common_factor b grid
  rw [← mul_le_mul_iff_left₀ positive, mul_assoc, mul_assoc, ← numerator, ← denominator]
  exact_mod_cast Iff.rfl

theorem scaled_lt_iff (b : Binary) (grid : Int) (x y : Nat) :
    x * scaleUp (b.exponent - 2) (-grid) < y * scaleUp (2 - b.exponent) grid ↔
      (x : ℚ) * b.quarter < y * 10 ^ grid := by
  rw [← not_le, scaled_ge_iff, not_le]

theorem scaled_gt_iff (b : Binary) (grid : Int) (x y : Nat) :
    y * scaleUp (2 - b.exponent) grid < x * scaleUp (b.exponent - 2) (-grid) ↔
      (y : ℚ) * 10 ^ grid < x * b.quarter := by
  rw [← not_le, scaled_le_iff, not_le]

theorem holds_iff (b : Binary) (grid : Int) (d : Nat) : b.holds grid d = true ↔ b.Takes (Scaled.value ⟨d, grid⟩) := by
  simp only [Binary.holds, Binary.Takes, Scaled.value]
  split
  · rw [decide_eq_true_iff, scaled_le_iff, scaled_ge_iff]
  · rw [decide_eq_true_iff, scaled_lt_iff, scaled_gt_iff]

theorem grid_point_holds (found : gridPoint b tie grid = some digits) :
    0 < digits ∧ b.holds grid digits = true := by
  unfold gridPoint at found
  simp only at found
  generalize b.interval.value * scaleUp (b.exponent - 2) (-grid) / scaleUp (2 - b.exponent) grid = below at found
  have above : 0 < below + 1 := by omega
  split at found
  · rename_i both
    split at found
    · cases found
      exact both.1.symm
    · split at found
      · cases found
        exact ⟨above, both.2⟩
      · cases tie with
        | up =>
            cases found
            exact ⟨above, both.2⟩
        | toEven =>
            simp only [Option.some.injEq] at found
            split at found
            · cases found
              exact both.1.symm
            · cases found
              exact ⟨above, both.2⟩
  · split at found
    · rename_i lower
      cases found
      exact lower.symm
    · split at found
      · rename_i upper
        cases found
        exact ⟨above, upper⟩
      · cases found

-- On a grid finer than half the last place, the next point above is in the interval.
theorem holds_above (fine : (10 : ℚ) ^ grid < 2 * b.quarter) :
    b.holds grid (b.interval.value * scaleUp (b.exponent - 2) (-grid) / scaleUp (2 - b.exponent) grid + 1) = true := by
  have side := scale_up_pos (2 - b.exponent) grid
  have narrow : scaleUp (2 - b.exponent) grid < 2 * scaleUp (b.exponent - 2) (-grid) := by
    have test := scaled_gt_iff b grid 2 1
    rw [one_mul] at test
    exact test.mpr (by simpa using fine)
  have low : b.interval.low * scaleUp (b.exponent - 2) (-grid) ≤
      b.interval.value * scaleUp (b.exponent - 2) (-grid) := Nat.mul_le_mul_right _ (Nat.sub_le _ _)
  have high : b.interval.high * scaleUp (b.exponent - 2) (-grid) =
      b.interval.value * scaleUp (b.exponent - 2) (-grid) + 2 * scaleUp (b.exponent - 2) (-grid) := Nat.add_mul _ _ _
  generalize b.interval.value * scaleUp (b.exponent - 2) (-grid) = value at low high ⊢
  have reached : value / scaleUp (2 - b.exponent) grid * scaleUp (2 - b.exponent) grid ≤ value := Nat.div_mul_le_self _ _
  have passed := Nat.lt_div_mul_add side (a := value)
  have next : (value / scaleUp (2 - b.exponent) grid + 1) * scaleUp (2 - b.exponent) grid =
      value / scaleUp (2 - b.exponent) grid * scaleUp (2 - b.exponent) grid + scaleUp (2 - b.exponent) grid :=
    Nat.succ_mul _ _
  simp only [Binary.holds, next]
  split
  · rw [decide_eq_true_iff]
    constructor <;> omega
  · rw [decide_eq_true_iff]
    constructor <;> omega

theorem grid_point_fine (fine : (10 : ℚ) ^ grid < 2 * b.quarter) : (gridPoint b tie grid).isSome = true := by
  have above := holds_above fine
  unfold gridPoint
  simp only [above, and_true, if_true]
  split
  · split
    · rfl
    · split
      · rfl
      · cases tie <;> rfl
  · rfl

-- The last grid that is tried for a mantissa of all bits.
def finest (exponent : Int) : Int := (52 + exponent) * 30103 / 100000 - 21

theorem finest_fine_all : ∀ n < (2047 : Nat),
    scaleUp (2 - ((n : Int) - 1074)) (finest ((n : Int) - 1074)) <
      2 * scaleUp ((n : Int) - 1074 - 2) (-finest ((n : Int) - 1074)) := by decide +kernel

theorem coarsest_fine (canonical : b.Canonical) : (10 : ℚ) ^ (coarsest b - 23) < 2 * b.quarter := by
  obtain ⟨bits, least, greatest, _⟩ := canonical
  have finer : (10 : ℚ) ^ (coarsest b - 23) ≤ 10 ^ finest b.exponent := by
    apply zpow_le_zpow_right₀ (by norm_num)
    have size : Nat.log2 b.mantissa ≤ 52 := by
      rcases Nat.eq_zero_or_pos b.mantissa with none | some
      · simp [none]
      · have bound := (Nat.log2_lt (by omega)).mpr bits
        omega
    simp only [coarsest, finest]
    omega
  have fine := finest_fine_all (b.exponent + 1074).toNat (by omega)
  rw [show (((b.exponent + 1074).toNat : Nat) : Int) - 1074 = b.exponent by omega] at fine
  have fine' := (scaled_gt_iff b (finest b.exponent) 2 1).mp (by rwa [one_mul])
  have fine'' : (10 : ℚ) ^ finest b.exponent < 2 * b.quarter := by simpa using fine'
  exact lt_of_le_of_lt finer fine''

-- The search ends with a point, if one of its grids has one.
theorem search_holds {count : Nat} (there : ∃ step < count, (gridPoint b tie (grid - step)).isSome = true) :
    0 < (search b tie count grid).digits ∧
      b.holds (search b tie count grid).exponent (search b tie count grid).digits = true := by
  induction count generalizing grid with
  | zero =>
      obtain ⟨step, less, _⟩ := there
      omega
  | succ count ih =>
      rw [search]
      cases found : gridPoint b tie grid with
      | some digits => exact grid_point_holds found
      | none =>
          apply ih
          obtain ⟨step, less, point⟩ := there
          cases step with
          | zero =>
              rw [Nat.cast_zero, sub_zero, found] at point
              cases point
          | succ step =>
              refine ⟨step, by omega, ?_⟩
              rwa [show grid - 1 - (step : Int) = grid - ((step + 1 : Nat) : Int) by push_cast; ring]

theorem shortest_holds (canonical : b.Canonical) (tie : Tie) :
    0 < (shortest b tie).digits ∧ b.Takes (shortest b tie).value := by
  have fine : (gridPoint b tie (coarsest b - 23)).isSome = true := grid_point_fine (coarsest_fine canonical)
  have found : 0 < (shortest b tie).digits ∧ b.holds (shortest b tie).exponent (shortest b tie).digits = true :=
    search_holds ⟨23, by omega, fine⟩
  exact ⟨found.1, (holds_iff b _ _).mp found.2⟩

end

end GridLoad.Decimal
