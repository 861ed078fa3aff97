import Mathlib.Algebra.Group.Nat.Defs
import Mathlib.Data.List.TakeWhile
import GridLoad.Decimal.Layout
import GridLoad.Decimal.Reading

/-!
Runs of digits in a text, and the numbers that they write.
-/

set_option autoImplicit false

namespace GridLoad.Text

open GridLoad.Decimal (natOfDigits zeros)

def Digits (text : List Char) : Prop := ∀ c ∈ text, c.isDigit = true

-- The text does not go on with a digit.
def Stops (text : List Char) : Prop := ∀ c more, text = c :: more → c.isDigit = false

section

variable {run run' rest rest' : List Char}

theorem stops_nil : Stops [] := fun _ _ same => nomatch same

theorem stops_cons {c : Char} (other : c.isDigit = false) : Stops (c :: rest) := by
  intro d more same
  cases same
  exact other

theorem digits_nil : Digits [] := fun _ member => nomatch member

theorem digits_append (first : Digits run) (second : Digits run') : Digits (run ++ run') := by
  intro c member
  rcases List.mem_append.mp member with left | right
  · exact first c left
  · exact second c right

theorem digits_cons {c : Char} (digit : c.isDigit = true) (digits : Digits run) : Digits (c :: run) := by
  intro d member
  rcases List.mem_cons.mp member with rfl | later
  · exact digit
  · exact digits d later

theorem take_digits (digits : Digits run) (stops : Stops rest) : (run ++ rest).takeWhile Char.isDigit = run := by
  rw [List.takeWhile_append_of_pos digits]
  cases rest with
  | nil => simp
  | cons c more => simp [stops c more rfl]

theorem drop_digits (digits : Digits run) (stops : Stops rest) : (run ++ rest).dropWhile Char.isDigit = rest := by
  rw [List.dropWhile_append_of_pos digits]
  cases rest with
  | nil => rfl
  | cons c more => simp [stops c more rfl]

theorem head_append (begun : run ≠ []) (rest : List Char) : (run ++ rest).head? = run.head? := by
  cases run with
  | nil => exact absurd rfl begun
  | cons c more => rfl

-- A run of digits and what follows it can be told apart.
theorem digits_split (digits : Digits run) (digits' : Digits run') (stops : Stops rest) (stops' : Stops rest')
    (same : run ++ rest = run' ++ rest') : run = run' ∧ rest = rest' := by
  have runs : run = run' := by rw [← take_digits digits stops, same, take_digits digits' stops']
  have rests : rest = rest' := by rw [← drop_digits digits stops, same, drop_digits digits' stops']
  exact ⟨runs, rests⟩

end

section

theorem nat_of_digits_eq (digits : List Char) : natOfDigits digits = Nat.ofDigitChars 10 digits 0 := rfl

theorem nat_of_written (n : Nat) : natOfDigits (Nat.toDigits 10 n) = n := Nat.ofDigitChars_ten_toDigits

theorem nat_of_append (digits more : List Char) :
    natOfDigits (digits ++ more) = natOfDigits digits * 10 ^ more.length + natOfDigits more := by
  rw [nat_of_digits_eq, Nat.ofDigitChars_append, Nat.ofDigitChars_eq_ofDigitChars_zero, Nat.mul_comm]
  rfl

theorem nat_of_zeros (count : Nat) : natOfDigits (zeros count) = 0 := by
  rw [nat_of_digits_eq, zeros, Nat.ofDigitChars_replicate_zero, Nat.mul_zero]

theorem length_zeros (count : Nat) : (zeros count).length = count := List.length_replicate

theorem written_digits (n : Nat) : Digits (Nat.toDigits 10 n) := fun _ member =>
  Nat.isDigit_of_mem_toDigits (by decide) (by decide) member

theorem zeros_digits (count : Nat) : Digits (zeros count) := by
  intro c member
  rw [List.eq_of_mem_replicate member]
  rfl

theorem written_injective {n m : Nat} (same : Nat.toDigits 10 n = Nat.toDigits 10 m) : n = m := by
  rw [← nat_of_written n, same, nat_of_written]

theorem digit_char_head : ∀ n < 10, 0 < n → n.digitChar ≠ '0' := by decide

-- A number is not written with a zero before other digits.
theorem written_head {n : Nat} (positive : 0 < n) : (Nat.toDigits 10 n).head? ≠ some '0' := by
  induction n using Nat.strongRecOn with
  | ind n ih =>
      by_cases small : n < 10
      · rw [Nat.toDigits_of_lt_base small]
        simpa using digit_char_head n small positive
      · have front := ih (n / 10) (by omega) (by omega)
        rw [Nat.toDigits_of_base_le (by decide) (by omega)]
        rwa [head_append Nat.toDigits_ne_nil]

end

end GridLoad.Text
