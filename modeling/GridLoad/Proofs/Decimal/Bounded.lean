import Mathlib
import GridLoad.Proofs.Decimal.Written

/-!
A whole number of a word is read as a finite double: the word fits, and the double nearest to it is far from the greatest.
-/

set_option autoImplicit false

namespace GridLoad.Decimal

open Float.Model (UnpackedFloat Format totalExponent)
open Float.Model.UnpackedFloat

-- Zero, or a magnitude whose last place is at most this power of two.
inductive Bounded (top : Int) : UnpackedFloat → Prop
  | zero (sign : Sign) : Bounded top (.zero sign)
  | finite (sign : Sign) (mantissa : Nat) (exponent : Int) (positive : 0 < mantissa) (below : exponent ≤ top) :
      Bounded top (.finite sign mantissa exponent positive)

instance (top : Int) (f : UnpackedFloat) : Decidable (Bounded top f) :=
  match f with
  | .zero sign => .isTrue (.zero sign)
  | .finite sign m e positive =>
      if below : e ≤ top then .isTrue (.finite sign m e positive below)
      else .isFalse fun bounded => by
        cases bounded
        exact below ‹_›
  | .infinity sign => .isFalse (by nofun)
  | .notANumber => .isFalse (by nofun)

section

variable {top : Int} {m width : Nat} {e : Int} {x y : Float}

theorem bounded_weaken {top' : Int} {f : UnpackedFloat} (bounded : Bounded top f) (higher : top ≤ top') :
    Bounded top' f := by
  cases bounded with
  | zero sign => exact .zero sign
  | finite sign m e positive below => exact .finite sign m e positive (below.trans higher)

theorem bounded_finite {f : UnpackedFloat} (bounded : Bounded top f) : f.isInf = false := by
  cases bounded <;> rfl

theorem shift_le (em : ExtendedMantissa) (k : Nat) : (em >>> k).mantissa ≤ em.mantissa := by
  change (k.repeat ExtendedMantissa.shiftRightOne em).mantissa ≤ em.mantissa
  induction k with
  | zero => exact Nat.le_refl _
  | succ k ih => exact (Nat.div_le_self _ 2).trans ih

theorem rounded_le (em : ExtendedMantissa) : em.roundedMantissa ≤ em.mantissa + 1 := by
  obtain ⟨m, half, more⟩ := em
  cases half <;> cases more <;>
    simp only [ExtendedMantissa.roundedMantissa, ExtendedMantissa.accuracy, Accuracy.roundToNearestEven] <;> omega

theorem log_le (small : m ≤ 2 ^ width) : m.log2 ≤ width := by
  by_cases zero : m = 0
  · simp [zero]
  · exact Nat.lt_succ_iff.mp ((Nat.log2_lt zero).mpr (small.trans_lt (Nat.pow_lt_pow_right (by decide) (by omega))))

-- The last place rises by no more than there are digits.
theorem shifted_exponent (small : m ≤ 2 ^ width) (accuracy : Accuracy) :
    (shiftToTargetExponent Format.binary64 m e accuracy).2 ≤ max (e + width) (-1074) := by
  have digits := log_le small
  simp only [shiftToTargetExponent, shiftToExponent, Format.targetExponent, totalExponent, Format.mantissaBits,
    Format.minExponent]
  norm_num
  omega

theorem round_bounded (sign : Sign) (small : m < 2 ^ width) :
    Bounded (max (e + 2 * width) (width - 1074)) (roundWithAccuracy Format.binary64 sign m e .exact) := by
  have first := shifted_exponent (e := e) small.le .exact
  have kept : (shiftToTargetExponent Format.binary64 m e .exact).1.mantissa ≤ m := shift_le _ _
  generalize shifted : shiftToTargetExponent Format.binary64 m e .exact = pair at first kept
  obtain ⟨em, e₁⟩ := pair
  simp only at first kept
  have rounded : em.roundedMantissa ≤ 2 ^ width := (rounded_le em).trans (by omega)
  have second := shifted_exponent (e := e₁) rounded .exact
  unfold roundWithAccuracy
  rw [shifted]
  dsimp only at first second ⊢
  split
  · exact .zero sign
  · refine .finite sign _ _ _ ?_
    omega

theorem mantissa_below {b : BitVec Format.binary64.numBits} {sign : Sign} {positive : 0 < m}
    (unpacks : unpack Format.binary64 b = .finite sign m e positive) : m < 2 ^ 53 := by
  unfold unpack at unpacks
  simp only at unpacks
  split at unpacks
  · split at unpacks <;> cases unpacks
  · split at unpacks
    · split at unpacks
      · cases unpacks
      · injection unpacks with _ same _
        rw [← same]
        exact (BitVec.isLt _).trans (by decide)
    · injection unpacks with _ same _
      rw [← same]
      exact BitVec.isLt _

theorem field_finite {n : Nat} (small : n < 2047) : BitVec.ofNat 11 n ≠ -1#11 := by
  intro same
  have numbers := congrArg BitVec.toNat same
  rw [BitVec.toNat_ofNat, Nat.mod_eq_of_lt (by omega)] at numbers
  simp at numbers
  omega

theorem components_bounded {field : BitVec 11} {mantissa : BitVec 52} (sign : Sign) (finite : field ≠ -1#11)
    (least : -1074 ≤ top) (below : (field.toNat : Int) - 1075 ≤ top) :
    Bounded top (unpack Format.binary64 (packComponents Format.binary64 sign field mantissa)) := by
  have bias : ((Format.binary64.exponentBias + 52 : Nat) : Int) = 1075 := by decide
  unfold unpack
  simp only [unpackExponent_packComponents, unpackMantissa_packComponents, if_neg finite]
  split
  · rename_i none
    split
    · exact .zero _
    · refine .finite _ _ _ _ ?_
      have zero : field.toNat = 0 := congrArg BitVec.toNat none
      push_cast at bias ⊢
      omega
  · refine .finite _ _ _ _ ?_
    push_cast at bias ⊢
    omega

-- What is packed far from the greatest double is unpacked there, too.
theorem unpack_bounded {f : UnpackedFloat} (bounded : Bounded top f) (least : -1074 ≤ top) (greatest : top ≤ 900) :
    Bounded top (Float.Model.pack f).unpack := by
  change Bounded top (unpack Format.binary64 (pack Format.binary64 f))
  cases bounded with
  | zero sign => exact components_bounded sign (field_finite (n := 0) (by decide)) least (by simp; omega)
  | finite sign mantissa exponent positive below =>
      have field : (BitVec.ofNat 11 (exponent + 1023 + 52).toNat).toNat = (exponent + 1023 + 52).toNat := by
        rw [BitVec.toNat_ofNat, Nat.mod_eq_of_lt (by omega)]
      simp only [pack, Format.exponentBias, Format.mantissaBits]
      norm_num
      rw [if_neg (by omega)]
      split
      · refine components_bounded sign (field_finite (by omega)) least ?_
        rw [field]
        omega
      · exact components_bounded sign (field_finite (n := 0) (by decide)) least (by simp; omega)

-- The last place of a product lies above the sum of both by no more than its digits.
theorem mul_bounded {other : Int} (bounded : Bounded top x.toModel.unpack) (bounded' : Bounded other y.toModel.unpack)
    (least : -862 ≤ top + other) (greatest : top + other ≤ 688) :
    Bounded (top + other + 212) (x * y).toModel.unpack := by
  change Bounded _ (Float.Model.pack (mul Format.binary64 x.toModel.unpack y.toModel.unpack)).unpack
  refine unpack_bounded ?_ (by omega) (by omega)
  generalize unpacks : x.toModel.unpack = f at bounded
  generalize unpacks' : y.toModel.unpack = g at bounded'
  cases bounded with
  | zero sign => cases bounded' <;> exact .zero _
  | finite sign m e positive below =>
      cases bounded' with
      | zero sign' => exact .zero _
      | finite sign' m' e' positive' below' =>
          have product : m * m' < 2 ^ 106 := calc
            m * m' < 2 ^ 53 * 2 ^ 53 := Nat.mul_lt_mul'' (mantissa_below unpacks) (mantissa_below unpacks')
            _ = 2 ^ 106 := by norm_num
          exact bounded_weaken (round_bounded (sign * sign') product) (by push_cast; omega)

theorem one_bounded : Bounded (-52) (powerOfTen 0).toModel.unpack := by decide +kernel

theorem unit_bounded : Bounded (-52) (Float.exactlyRepresentablePowersOfTen[0]).toModel.unpack := by decide +kernel

theorem small_double_bounded {n : Nat} (small : n < 2 ^ 53) : Bounded 210 n.toUInt64.toFloat.toModel.unpack := by
  refine unpack_bounded ?_ (by decide) (by decide)
  have same : n.toUInt64.toNat = n := by
    rw [Nat.toUInt64, UInt64.toNat_ofNat']
    exact Nat.mod_eq_of_lt (by omega)
  unfold ofUInt64 ofNat ofInt
  rw [same]
  unfold UnpackedFloat.normalize
  split
  · rename_i below
    exact absurd (compare_lt_iff_lt.mp below) (by omega)
  · exact .zero _
  · have places : (0 - Format.binary64.targetExponent (totalExponent n 0)).toNat ≤ 52 := by
      simp only [Format.targetExponent, totalExponent, Format.mantissaBits, Format.minExponent]
      norm_num
      omega
    have widened : n <<< (0 - Format.binary64.targetExponent (totalExponent n 0)).toNat < 2 ^ 105 := by
      rw [Nat.shiftLeft_eq]
      calc n * 2 ^ _ ≤ n * 2 ^ 52 := Nat.mul_le_mul_left n (Nat.pow_le_pow_right (by decide) places)
        _ < 2 ^ 53 * 2 ^ 52 := Nat.mul_lt_mul_of_pos_right small (by decide)
        _ = 2 ^ 105 := by norm_num
    unfold UnpackedFloat.round decreaseExponent
    simp only [Int.toNat_natCast]
    exact bounded_weaken (round_bounded _ widened) (by push_cast; omega)

-- The double nearest to a word.
theorem word_double_bounded {n : Nat} (word : n < wordLimit 64) :
    Bounded 370 (Float.ofScientific n false 0).toModel.unpack := by
  have below : n < 2 ^ 64 := word
  unfold Float.ofScientific
  split
  · rename_i small
    simp only [Bool.false_eq_true, if_false]
    exact bounded_weaken (mul_bounded (small_double_bounded small.1) unit_bounded (by decide) (by decide)) (by decide)
  · simp only [Bool.false_eq_true, if_false]
    refine unpack_bounded ?_ (by decide) (by decide)
    unfold ofScientific
    split
    · exact .zero _
    · have product : n <<< Format.binary64.mantissaBits * 10 ^ (Int.ofNat 0).toNat < 2 ^ 117 := by
        rw [Nat.shiftLeft_eq]
        simp only [Format.mantissaBits]
        norm_num
        omega
      rw [if_neg (by decide), if_neg (by norm_num), if_pos (by decide)]
      simp only [mul]
      exact bounded_weaken (round_bounded _ product) (by simp [Format.mantissaBits])

-- All digits of a word are kept.
theorem fill_word {digits : List Char} {word : Nat}
    (fits : digits.foldl (fun n c => 10 * n + digitValue c) word < wordLimit 64) :
    fill word digits = (digits.foldl (fun n c => 10 * n + digitValue c) word, 0) := by
  induction digits generalizing word with
  | nil => rfl
  | cons c rest ih =>
      have grows : ∀ (more : List Char) (n : Nat), n ≤ more.foldl (fun n c => 10 * n + digitValue c) n := by
        intro more
        induction more with
        | nil => exact fun n => Nat.le_refl n
        | cons d more ih => exact fun n => le_trans (by omega) (ih (10 * n + digitValue d))
      have next : 10 * word + digitValue c < wordLimit 64 := (grows rest _).trans_lt fits
      rw [fill, if_pos next]
      exact ih fits

theorem kept_word {n : Nat} (word : n < wordLimit 64) : kept (Nat.toDigits 10 n) [] = ⟨n, 0⟩ := by
  have read : (Nat.toDigits 10 n).foldl (fun n c => 10 * n + digitValue c) 0 = n := Text.nat_of_written n
  have filled : fill 0 (Nat.toDigits 10 n) = (n, 0) := by
    rw [fill_word (by rwa [read]), read]
  unfold kept
  rw [filled]
  rfl

theorem word_finite {n : Nat} (word : n < wordLimit 64) :
    (Scaled.toFloat ⟨n, 0⟩ * powerOfTen 0).isInf = false := by
  have bounded : Bounded 370 (Scaled.toFloat ⟨n, 0⟩).toModel.unpack := by
    have length : (Nat.toDigits 10 n).length ≤ 20 :=
      (Nat.length_toDigits_le_iff (by decide) (by decide)).mpr (Nat.lt_trans word (by decide))
    unfold Scaled.toFloat
    simp only
    split
    · decide +kernel
    · rw [if_neg (by omega), if_pos (by decide)]
      exact word_double_bounded word
  exact bounded_finite (mul_bounded bounded one_bounded (by decide) (by decide))

end

end GridLoad.Decimal

namespace GridLoad.Json

open GridLoad.Decimal

theorem word_held {n : Nat} (word : n < wordLimit 64) : (floatOf? (Nat.toDigits 10 n)).isSome = true := by
  have numeral : Numeral.ofLexeme (Nat.toDigits 10 n) = ⟨false, Nat.toDigits 10 n, [], none, true⟩ := numeral_of_nat n
  simp only [floatOf?, numeral, stepwise?, kept_word word, Option.getD_none, Int.add_zero]
  have finite := word_finite word
  unfold scaled?
  rw [if_neg (by decide), if_pos (by decide)]
  simp only [Int.toNat_zero, finite?, finite, Bool.false_eq_true, if_false, Option.map_some, Option.isSome_some]

end GridLoad.Json
