import GridLoad.Json.Lexeme
import GridLoad.Proofs.Decimal.Shortest
import GridLoad.Proofs.Text.Digits

/-!
The text of a finite double tells which double it is.
-/

set_option autoImplicit false

namespace GridLoad.Decimal

open GridLoad.Text
open GridLoad.Json (Numeral exponentOf signOf fractionOf)

-- How a magnitude is spelt: digits before and after the point, and a power of ten.
structure Spelling where
  whole : List Char
  fraction : List Char
  exponent : Option Int

namespace Spelling

def fractionText (s : Spelling) : List Char := if s.fraction.isEmpty then [] else '.' :: s.fraction

def exponentPart (s : Spelling) : List Char :=
  match s.exponent with
  | none => []
  | some e => 'e' :: (if e < 0 then '-' else '+') :: digitsOf e.natAbs

def text (s : Spelling) : List Char := s.whole ++ (s.fractionText ++ s.exponentPart)

def value (s : Spelling) : ℚ :=
  natOfDigits (s.whole ++ s.fraction) * (10 : ℚ) ^ (s.exponent.getD 0 - s.fraction.length)

-- As numbers of documents must be: of digits, the first of which is no zero unless it is alone.
structure Proper (s : Spelling) : Prop where
  whole : Digits s.whole
  fraction : Digits s.fraction
  begun : s.whole ≠ []
  plain : s.whole.head? = some '0' → s.whole = ['0']

end Spelling

def Scaled.positional (d : Scaled) : Spelling :=
  let digits := digitsOf d.digits
  let leading : Int := d.exponent + digits.length
  if 0 ≤ d.exponent then ⟨digits ++ zeros d.exponent.toNat, ['0'], none⟩
  else if 0 < leading then ⟨digits.take leading.toNat, digits.drop leading.toNat, none⟩
  else ⟨['0'], zeros (-leading).toNat ++ digits, none⟩

def Scaled.exponential (d : Scaled) : Spelling :=
  let digits := digitsOf d.digits
  ⟨digits.take 1, digits.drop 1, some (d.exponent + digits.length - 1)⟩

-- The spelling of a positive decimal in documents.
def Scaled.spelling (d : Scaled) : Spelling :=
  let leading : Int := d.exponent + (digitsOf d.digits).length - 1
  if -5 ≤ leading ∧ leading ≤ 15 then d.positional else d.exponential

section

variable {d : Scaled}

theorem positional_text (d : Scaled) : positionalText true d = d.positional.text := by
  simp only [positionalText, Scaled.positional]
  split
  · simp [Spelling.text, Spelling.fractionText, Spelling.exponentPart]
  · split
    · rename_i fractional inside
      have more : (digitsOf d.digits).drop (d.exponent + (digitsOf d.digits).length).toNat ≠ [] := by
        rw [ne_eq, List.drop_eq_nil_iff]
        omega
      simp [Spelling.text, Spelling.fractionText, Spelling.exponentPart, more]
    · have more : digitsOf d.digits ≠ [] := Nat.toDigits_ne_nil
      simp [Spelling.text, Spelling.fractionText, Spelling.exponentPart, more]

theorem exponential_text (d : Scaled) : exponentText d = d.exponential.text := by
  simp only [exponentText, Scaled.exponential, Spelling.text, Spelling.fractionText, Spelling.exponentPart]
  by_cases more : 1 < (digitsOf d.digits).length
  · have there : ((digitsOf d.digits).drop 1).isEmpty = false := by
      rw [List.isEmpty_eq_false_iff, ne_eq, List.drop_eq_nil_iff]
      omega
    simp only [more, there, if_true, Bool.false_eq_true, if_false, List.append_assoc, List.cons_append]
  · have none : (digitsOf d.digits).drop 1 = [] := List.drop_eq_nil_iff.mpr (by omega)
    simp [more, none]

theorem spelling_text (d : Scaled) : stored.magnitudeText d = d.spelling.text := by
  simp only [Layout.magnitudeText, stored, Scaled.spelling]
  split
  · exact positional_text d
  · exact exponential_text d

theorem positional_value (d : Scaled) : d.positional.value = d.value := by
  have digits : natOfDigits (digitsOf d.digits) = d.digits := nat_of_written d.digits
  simp only [Scaled.positional]
  split
  · rename_i whole
    have number : natOfDigits (digitsOf d.digits ++ zeros d.exponent.toNat ++ ['0']) =
        d.digits * 10 ^ d.exponent.toNat * 10 := by
      rw [nat_of_append, nat_of_append, digits, nat_of_zeros, length_zeros]
      rfl
    have power : (10 : ℚ) ^ d.exponent = 10 ^ d.exponent.toNat := by
      rw [← zpow_natCast, Int.toNat_of_nonneg whole]
    simp only [Spelling.value, Scaled.value, number, power, Option.getD_none, List.length_singleton]
    push_cast
    rw [zpow_neg_one, mul_inv_cancel_right₀ (by norm_num)]
  · rename_i fractional
    split
    · rename_i inside
      simp only [Spelling.value, Scaled.value, List.take_append_drop, digits, Option.getD_none, List.length_drop]
      congr 2
      omega
    · have number : natOfDigits (['0'] ++ (zeros (-(d.exponent + (digitsOf d.digits).length)).toNat ++
          digitsOf d.digits)) = d.digits := by
        rw [nat_of_append, nat_of_append, digits, nat_of_zeros, Nat.zero_mul, Nat.zero_add]
        exact (congrArg (· + d.digits) (Nat.zero_mul _)).trans (Nat.zero_add _)
      simp only [Spelling.value, Scaled.value, number, Option.getD_none, List.length_append, length_zeros]
      congr 2
      push_cast
      omega

theorem exponential_value (d : Scaled) : d.exponential.value = d.value := by
  simp only [Scaled.exponential, Spelling.value, List.take_append_drop, Option.getD_some, Scaled.value]
  rw [digitsOf, nat_of_written]
  congr 2
  rw [List.length_drop]
  have size : (((Nat.toDigits 10 d.digits).length - 1 : Nat) : Int) = (Nat.toDigits 10 d.digits).length - 1 := by
    have begun : 0 < (Nat.toDigits 10 d.digits).length := Nat.length_toDigits_pos
    omega
  omega

theorem spelling_value (d : Scaled) : d.spelling.value = d.value := by
  unfold Scaled.spelling
  simp only
  split
  · exact positional_value d
  · exact exponential_value d

theorem positional_proper (positive : 0 < d.digits) : d.positional.Proper := by
  have digits : Digits (digitsOf d.digits) := written_digits d.digits
  have head : (digitsOf d.digits).head? ≠ some '0' := written_head positive
  simp only [Scaled.positional]
  split
  · refine ⟨digits_append digits (zeros_digits _), digits_cons rfl digits_nil, by simp [digitsOf], ?_⟩
    intro zero
    have begun : digitsOf d.digits ≠ [] := Nat.toDigits_ne_nil
    have first : (digitsOf d.digits).head? = some '0' := by
      rwa [← head_append begun (zeros d.exponent.toNat)]
    exact absurd first head
  · split
    · rename_i inside
      refine ⟨fun c member => digits c (List.mem_of_mem_take member),
        fun c member => digits c (List.mem_of_mem_drop member), ?_, fun zero => ?_⟩
      · rw [ne_eq, List.take_eq_nil_iff]
        rintro (none | none)
        · omega
        · exact Nat.toDigits_ne_nil none
      · rw [List.head?_take, if_neg (by omega)] at zero
        exact absurd zero head
    · exact ⟨digits_cons rfl digits_nil, digits_append (zeros_digits _) digits, by simp, fun _ => rfl⟩

theorem exponential_proper (positive : 0 < d.digits) : d.exponential.Proper := by
  have digits : Digits (digitsOf d.digits) := written_digits d.digits
  have head : (digitsOf d.digits).head? ≠ some '0' := written_head positive
  refine ⟨fun c member => digits c (List.mem_of_mem_take member),
    fun c member => digits c (List.mem_of_mem_drop member), ?_, fun zero => ?_⟩
  · simp only [Scaled.exponential, ne_eq, List.take_eq_nil_iff, Nat.one_ne_zero, false_or]
    exact Nat.toDigits_ne_nil
  · simp only [Scaled.exponential, List.head?_take, Nat.one_ne_zero, if_false] at zero
    exact absurd zero head

theorem spelling_proper (positive : 0 < d.digits) : d.spelling.Proper := by
  unfold Scaled.spelling
  simp only
  split
  · exact positional_proper positive
  · exact exponential_proper positive

end

section

variable {s : Spelling}

theorem exponent_part_stops (s : Spelling) : Stops s.exponentPart := by
  unfold Spelling.exponentPart
  split
  · exact stops_nil
  · exact stops_cons rfl

theorem tail_stops (s : Spelling) : Stops (s.fractionText ++ s.exponentPart) := by
  unfold Spelling.fractionText
  split
  · exact exponent_part_stops s
  · exact stops_cons rfl

theorem exponent_read (e : Int) :
    exponentOf ((if e < 0 then '-' else '+') :: digitsOf e.natAbs) = e := by
  have digits : natOfDigits (digitsOf e.natAbs) = e.natAbs := nat_of_written e.natAbs
  split
  · simp only [exponentOf, digits]
    omega
  · simp only [exponentOf, digits]
    omega

theorem whole_begins (proper : s.Proper) : ∃ c more, s.whole = c :: more ∧ c.isDigit = true ∧ c ≠ '-' := by
  obtain ⟨c, more, begins⟩ := List.exists_cons_of_ne_nil proper.begun
  have digit : c.isDigit = true := proper.whole c (by simp [begins])
  refine ⟨c, more, begins, digit, ?_⟩
  rintro rfl
  cases digit

theorem sign_of_spelling (proper : s.Proper) (negative : Bool) :
    signOf ((if negative then ['-'] else []) ++ s.text) = (negative, s.text) := by
  cases negative with
  | true => rfl
  | false =>
      obtain ⟨c, more, begins, _, plain⟩ := whole_begins proper
      simp [Spelling.text, begins, signOf, plain]

theorem fraction_of_spelling (proper : s.Proper) :
    fractionOf (s.fractionText ++ s.exponentPart) = (s.fraction, s.exponentPart) := by
  unfold Spelling.fractionText
  cases fraction : s.fraction with
  | nil =>
      have pointless : ∀ more, s.exponentPart ≠ '.' :: more := by
        intro more same
        unfold Spelling.exponentPart at same
        split at same
        · cases same
        · cases same
      simp only [List.isEmpty_nil, if_true, List.nil_append]
      unfold fractionOf
      split
      · rename_i more same
        exact absurd same (pointless more)
      · rfl
  | cons c more =>
      have digits := proper.fraction
      rw [fraction] at digits
      simp only [List.isEmpty_cons, Bool.false_eq_true, if_false, List.cons_append, fractionOf]
      rw [← List.cons_append, take_digits digits (exponent_part_stops s), drop_digits digits (exponent_part_stops s)]

-- What is read of a number's text.
theorem numeral_of_spelling (proper : s.Proper) (negative : Bool) :
    Numeral.ofLexeme ((if negative then ['-'] else []) ++ s.text) =
      ⟨negative, s.whole, s.fraction, s.exponent, (s.fractionText ++ s.exponentPart).isEmpty⟩ := by
  have whole : s.text.takeWhile Char.isDigit = s.whole := take_digits proper.whole (tail_stops s)
  have tail : s.text.dropWhile Char.isDigit = s.fractionText ++ s.exponentPart :=
    drop_digits proper.whole (tail_stops s)
  simp only [Numeral.ofLexeme, sign_of_spelling proper negative, whole, tail, fraction_of_spelling proper]
  congr 1
  unfold Spelling.exponentPart
  cases s.exponent with
  | none => rfl
  | some e => exact congrArg some (exponent_read e)

-- A whole number is spelt by its digits alone.
def Spelling.ofNat (n : Nat) : Spelling := ⟨digitsOf n, [], none⟩

theorem of_nat_text (n : Nat) : (Spelling.ofNat n).text = digitsOf n := by
  simp [Spelling.ofNat, Spelling.text, Spelling.fractionText, Spelling.exponentPart]

theorem of_nat_proper (n : Nat) : (Spelling.ofNat n).Proper where
  whole := written_digits n
  fraction := digits_nil
  begun := Nat.toDigits_ne_nil
  plain zero := by
    rcases Nat.eq_zero_or_pos n with rfl | positive
    · rfl
    · exact absurd zero (written_head positive)

theorem numeral_of_nat (n : Nat) : Numeral.ofLexeme (digitsOf n) = ⟨false, digitsOf n, [], none, true⟩ := by
  have read := numeral_of_spelling (of_nat_proper n) false
  rw [of_nat_text] at read
  exact read

-- The spelling of any magnitude in documents.
def Binary.spelling (b : Binary) : Spelling :=
  if b.mantissa = 0 then ⟨['0'], ['0'], none⟩ else (shortest b .toEven).spelling

theorem binary_proper {b : Binary} (canonical : b.Canonical) : b.spelling.Proper := by
  unfold Binary.spelling
  split
  · exact ⟨digits_cons rfl digits_nil, digits_cons rfl digits_nil, by simp, fun _ => rfl⟩
  · exact spelling_proper (shortest_holds canonical .toEven).1

theorem binary_value_pos {b : Binary} (canonical : b.Canonical) (some : b.mantissa ≠ 0) :
    0 < b.spelling.value ∧ b.Takes b.spelling.value := by
  obtain ⟨positive, takes⟩ := shortest_holds canonical .toEven
  rw [Binary.spelling, if_neg some, spelling_value]
  exact ⟨mul_pos (by exact_mod_cast positive) (zpow_pos (by norm_num) _), takes⟩

theorem binary_value_zero {b : Binary} (none : b.mantissa = 0) : b.spelling.value = 0 := by
  rw [Binary.spelling, if_pos none]
  exact zero_mul _

theorem zero_once {b : Binary} (canonical : b.Canonical) (none : b.mantissa = 0) : b = ⟨0, -1074⟩ := by
  have least : b.exponent = -1074 := by
    by_contra other
    have full := canonical.normal other
    simp [none] at full
  cases b
  cases none
  cases least
  rfl

theorem spelling_once {b c : Binary} (canonical : b.Canonical) (canonical' : c.Canonical)
    (same : b.spelling.value = c.spelling.value) : b = c := by
  by_cases none : b.mantissa = 0
  · by_cases none' : c.mantissa = 0
    · rw [zero_once canonical none, zero_once canonical' none']
    · have positive := (binary_value_pos canonical' none').1
      rw [← same, binary_value_zero none] at positive
      exact absurd positive (lt_irrefl 0)
  · by_cases none' : c.mantissa = 0
    · have positive := (binary_value_pos canonical none).1
      rw [same, binary_value_zero none'] at positive
      exact absurd positive (lt_irrefl 0)
    · have takes := (binary_value_pos canonical none).2
      rw [same] at takes
      exact takes_once canonical canonical' takes (binary_value_pos canonical' none').2

end

section

variable {x y : Float}

theorem finite_plain (finite : x.isFinite = true) : x.isNaN = false ∧ x.isInf = false := by
  unfold Float.isFinite Float.Model.isFinite at finite
  unfold Float.isNaN Float.isInf Float.Model.isNaN Float.Model.isInf
  cases unpacked : x.toModel.unpack with
  | notANumber =>
      rw [unpacked] at finite
      cases finite
  | infinity sign =>
      rw [unpacked] at finite
      cases finite
  | zero sign => exact ⟨rfl, rfl⟩
  | finite sign exponent mantissa => exact ⟨rfl, rfl⟩

theorem float_of_bits (same : x.toBits = y.toBits) : x = y := by
  obtain ⟨a, valid⟩ := x
  obtain ⟨b, valid'⟩ := y
  cases same
  rfl

theorem biased_eq (x : Float) : (x.toBits >>> 52).toNat % 2048 = x.toBits.toNat / 2 ^ 52 % 2048 := by
  rw [UInt64.toNat_shiftRight]
  exact congrArg (· % 2048) (Nat.shiftRight_eq_div_pow _ _)

theorem negative_iff (x : Float) : isNegative x = true ↔ x.toBits.toNat / 2 ^ 63 = 1 := by
  rw [isNegative, decide_eq_true_iff, ← UInt64.toNat_inj, UInt64.toNat_shiftRight]
  exact Eq.congr_left (Nat.shiftRight_eq_div_pow _ _)

theorem binary_canonical (x : Float) : (binary x).Canonical := by
  have fraction : x.toBits.toNat % Nat.pow 2 52 < Nat.pow 2 52 := Nat.mod_lt _ (by decide)
  have biased : (x.toBits >>> 52).toNat % 2048 < 2048 := Nat.mod_lt _ (by decide)
  simp only [Nat.pow_eq, Nat.reducePow] at fraction
  unfold binary
  simp only [Nat.pow_eq, Nat.reducePow]
  split
  · refine ⟨?_, ?_, ?_, fun other => absurd rfl other⟩
    · simp only [Nat.pow_eq, Nat.reducePow]
      omega
    · exact le_refl _
    · simp only
      omega
  · refine ⟨?_, ?_, ?_, fun _ => ?_⟩
    · simp only [Nat.pow_eq, Nat.reducePow]
      omega
    · simp only
      omega
    · simp only
      omega
    · simp only [Nat.pow_eq, Nat.reducePow]
      omega

-- Sign, exponent and fraction are all the bits there are.
theorem float_of_binary (sign : isNegative x = isNegative y) (same : binary x = binary y) : x = y := by
  apply float_of_bits
  rw [← UInt64.toNat_inj]
  have signs : x.toBits.toNat / 2 ^ 63 = 1 ↔ y.toBits.toNat / 2 ^ 63 = 1 := by
    rw [← negative_iff, ← negative_iff, sign]
  have below := x.toBits.toNat_lt
  have below' := y.toBits.toNat_lt
  unfold binary at same
  simp only [biased_eq, Nat.pow_eq, Nat.reducePow] at same signs below below'
  split at same
  · split at same
    · injection same
      omega
    · injection same
      omega
  · split at same
    · injection same
      omega
    · injection same
      omega

theorem write_finite (finite : x.isFinite = true) :
    (stored.write x).toList = (if isNegative x then ['-'] else []) ++ (binary x).spelling.text := by
  obtain ⟨number, bounded⟩ := finite_plain finite
  have magnitude : (if (binary x).mantissa = 0 then positionalText true ⟨0, 0⟩
      else stored.magnitudeText (shortest (binary x) .toEven)) = (binary x).spelling.text := by
    unfold Binary.spelling
    split
    · rfl
    · exact spelling_text _
  simp only [Layout.write, number, bounded, Bool.false_eq_true, if_false]
  rw [String.toList_append, String.toList_ofList]
  congr 1
  split <;> rfl

-- Two finite doubles of one text are one, to the bit.
theorem write_injective (finite : x.isFinite = true) (finite' : y.isFinite = true)
    (same : stored.write x = stored.write y) : x = y := by
  have lexemes := congrArg String.toList same
  rw [write_finite finite, write_finite finite'] at lexemes
  have numerals := congrArg Numeral.ofLexeme lexemes
  rw [numeral_of_spelling (binary_proper (binary_canonical x)),
    numeral_of_spelling (binary_proper (binary_canonical y))] at numerals
  injection numerals with sign whole fraction exponent _
  have value : (binary x).spelling.value = (binary y).spelling.value := by
    rw [Spelling.value, Spelling.value, whole, fraction, exponent]
  exact float_of_binary sign (spelling_once (binary_canonical x) (binary_canonical y) value)

end

end GridLoad.Decimal
