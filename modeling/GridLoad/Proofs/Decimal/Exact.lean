import GridLoad.Proofs.Decimal.Bounded

/-!
The exact value of a finite double, by which doubles are ordered.
-/

set_option autoImplicit false

namespace GridLoad.Decimal

open Float.Model (UnpackedFloat Format)
open Float.Model.UnpackedFloat

def Binary.value (b : Binary) : ℚ := b.mantissa * (2 : ℚ) ^ b.exponent

-- What is no number has the value zero, too.
def unpackedValue : UnpackedFloat → ℚ
  | .finite .positive m e _ => Binary.value ⟨m, e⟩
  | .finite .negative m e _ => -Binary.value ⟨m, e⟩
  | _ => 0

def exact (x : Float) : ℚ := unpackedValue x.toModel.unpack

section

variable {b c : Binary} {m : Nat} {e : Int} {f g : UnpackedFloat} {x y : Float}

theorem unpacked_canonical {v : BitVec Format.binary64.numBits} {sign : Sign} {positive : 0 < m}
    (unpacks : unpack Format.binary64 v = .finite sign m e positive) : (⟨m, e⟩ : Binary).Canonical := by
  have below := mantissa_below unpacks
  have bias : (Format.binary64.exponentBias : Int) = 1023 := by decide
  unfold unpack at unpacks
  simp only at unpacks
  split at unpacks
  · split at unpacks <;> cases unpacks
  · split at unpacks
    · rename_i subnormal
      split at unpacks
      · cases unpacks
      · injection unpacks with _ _ place
        have field : (unpackExponent v).toNat = 0 := congrArg BitVec.toNat subnormal
        rw [bias, field] at place
        have least : e = -1074 := place.symm
        exact ⟨below, by simp [least], by simp [least], fun other => absurd least other⟩
    · rename_i normal
      injection unpacks with _ mantissa place
      have positive : (unpackExponent v).toNat ≠ 0 := fun zero => normal (BitVec.eq_of_toNat_eq zero)
      have field : (unpackExponent v).toNat < 2 ^ 11 := BitVec.isLt _
      rw [bias] at place
      push_cast at place
      refine ⟨below, ?_, ?_, fun _ => ?_⟩
      · simp only
        omega
      · simp only
        omega
      · simp only [← mantissa]
        rw [BitVec.toNat_append]
        exact Nat.left_le_or

-- The exponents come first in the order of values, since all bits of the mantissas are in use.
theorem value_lt_of_exponent (canonical : b.Canonical) (canonical' : c.Canonical) (lower : b.exponent < c.exponent) :
    b.value < c.value := by
  have full : 2 ^ 52 ≤ c.mantissa := canonical'.normal (by have := canonical.least; omega)
  calc
    b.value < 2 ^ 53 * (2 : ℚ) ^ b.exponent := by
      refine mul_lt_mul_of_pos_right ?_ (zpow_pos (by norm_num) _)
      exact_mod_cast canonical.mantissa
    _ = 2 ^ 52 * (2 : ℚ) ^ (b.exponent + 1) := by
      rw [zpow_add_one₀ (by norm_num)]
      ring
    _ ≤ 2 ^ 52 * (2 : ℚ) ^ c.exponent := by
      refine mul_le_mul_of_nonneg_left (zpow_le_zpow_right₀ (by norm_num) lower) (by norm_num)
    _ ≤ c.value := by
      refine mul_le_mul_of_nonneg_right ?_ (zpow_pos (by norm_num) _).le
      exact_mod_cast full

theorem value_compare (canonical : b.Canonical) (canonical' : c.Canonical) :
    (compare b.exponent c.exponent).then (compare b.mantissa c.mantissa) = compare b.value c.value := by
  rcases lt_trichotomy b.exponent c.exponent with lower | same | higher
  · rw [compare_lt_iff_lt.mpr lower, compare_lt_iff_lt.mpr (value_lt_of_exponent canonical canonical' lower)]
    rfl
  · have place : (0 : ℚ) < 2 ^ c.exponent := zpow_pos (by norm_num) _
    rw [compare_eq_iff_eq.mpr same, Binary.value, Binary.value, same]
    rcases lt_trichotomy b.mantissa c.mantissa with less | equal | more
    · rw [compare_lt_iff_lt.mpr less, compare_lt_iff_lt.mpr (mul_lt_mul_of_pos_right (by exact_mod_cast less) place)]
      rfl
    · rw [equal, compare_eq_iff_eq.mpr rfl, compare_eq_iff_eq.mpr rfl]
      rfl
    · rw [compare_gt_iff_gt.mpr more, compare_gt_iff_gt.mpr (mul_lt_mul_of_pos_right (by exact_mod_cast more) place)]
      rfl
  · rw [compare_gt_iff_gt.mpr higher, compare_gt_iff_gt.mpr (value_lt_of_exponent canonical' canonical higher)]
    rfl

theorem value_pos (b : Binary) (positive : 0 < b.mantissa) : 0 < b.value :=
  mul_pos (by exact_mod_cast positive) (zpow_pos (by norm_num) _)

-- A finite number as a double is unpacked to it.
inductive Unpacked : UnpackedFloat → Prop
  | zero (sign : Sign) : Unpacked (.zero sign)
  | finite (sign : Sign) (m : Nat) (e : Int) (positive : 0 < m) (canonical : (⟨m, e⟩ : Binary).Canonical) :
      Unpacked (.finite sign m e positive)

theorem finite_unpacked (finite : x.isFinite = true) : Unpacked x.toModel.unpack := by
  unfold Float.isFinite Float.Model.isFinite at finite
  cases unpacks : x.toModel.unpack with
  | notANumber =>
      rw [unpacks] at finite
      cases finite
  | infinity sign =>
      rw [unpacks] at finite
      cases finite
  | zero sign => exact .zero sign
  | finite sign m e positive => exact .finite sign m e positive (unpacked_canonical unpacks)

theorem compare_neg_value (p q : ℚ) : compare (-p) (-q) = compare q p := by
  rw [← cmp_eq_compare, ← cmp_eq_compare]
  have falling : StrictAnti fun x : ℚ => -x := fun _ _ less => neg_lt_neg less
  exact falling.cmp_map_eq p q

theorem unpacked_compare (left : Unpacked f) (right : Unpacked g) :
    f.compare g = some (compare (unpackedValue f) (unpackedValue g)) := by
  cases left with
  | zero sign =>
      cases right with
      | zero sign' => exact congrArg some (compare_eq_iff_eq.mpr rfl).symm
      | finite sign' m' e' positive' canonical' =>
          have above := value_pos ⟨m', e'⟩ positive'
          cases sign' with
          | positive => exact congrArg some (compare_lt_iff_lt.mpr above).symm
          | negative => exact congrArg some (compare_gt_iff_gt.mpr (neg_neg_of_pos above)).symm
  | finite sign m e positive canonical =>
      have above := value_pos ⟨m, e⟩ positive
      cases right with
      | zero sign' =>
          cases sign with
          | positive => exact congrArg some (compare_gt_iff_gt.mpr above).symm
          | negative => exact congrArg some (compare_lt_iff_lt.mpr (neg_neg_of_pos above)).symm
      | finite sign' m' e' positive' canonical' =>
          have above' := value_pos ⟨m', e'⟩ positive'
          cases sign with
          | positive =>
              cases sign' with
              | positive => exact congrArg some (value_compare canonical canonical')
              | negative => exact congrArg some (compare_gt_iff_gt.mpr ((neg_neg_of_pos above').trans above)).symm
          | negative =>
              cases sign' with
              | positive => exact congrArg some (compare_lt_iff_lt.mpr ((neg_neg_of_pos above).trans above')).symm
              | negative =>
                  refine congrArg some ?_
                  rw [value_compare canonical canonical', ← Std.OrientedOrd.eq_swap]
                  exact (compare_neg_value _ _).symm

-- Finite doubles are ordered as their values.
theorem le_iff_exact (finite : x.isFinite = true) (finite' : y.isFinite = true) : x ≤ y ↔ exact x ≤ exact y := by
  have unfolded : x ≤ y ↔ (x.toModel.unpack.compare y.toModel.unpack).any (·.isLE) = true := by
    change decide (x.toModel ≤ y.toModel) = true ↔ _
    rw [decide_eq_true_iff]
    exact Iff.rfl
  rw [unfolded, unpacked_compare (finite_unpacked finite) (finite_unpacked finite')]
  exact Std.LawfulBCmp.isLE_iff_le

theorem lt_iff_exact (finite : x.isFinite = true) (finite' : y.isFinite = true) : x < y ↔ exact x < exact y := by
  have unfolded : x < y ↔ (x.toModel.unpack.compare y.toModel.unpack == some .lt) = true := by
    change decide (x.toModel < y.toModel) = true ↔ _
    rw [decide_eq_true_iff]
    exact Iff.rfl
  rw [unfolded, unpacked_compare (finite_unpacked finite) (finite_unpacked finite'), beq_iff_eq, Option.some_inj,
    compare_lt_iff_lt]
  exact Iff.rfl

theorem exact_zero : exact 0 = 0 := rfl

theorem not_negative (finite : x.isFinite = true) : ¬ x < 0 ↔ 0 ≤ exact x := by
  rw [lt_iff_exact finite (by rfl), exact_zero, not_lt]

-- The usual check of a number that must not be negative.
theorem finite_nonneg : ¬ (!x.isFinite || decide (x < 0)) = true ↔ x.isFinite = true ∧ 0 ≤ exact x := by
  rw [Bool.or_eq_true, not_or, Bool.not_eq_true', Bool.not_eq_false, decide_eq_true_eq]
  exact and_congr_right not_negative

theorem exact_one : exact 1 = 1 := by
  have unpacks : (1 : Float).toModel.unpack = .finite .positive (2 ^ 52) (-52) (by decide) := rfl
  rw [exact, unpacks]
  norm_num [unpackedValue, Binary.value]

end

end GridLoad.Decimal
