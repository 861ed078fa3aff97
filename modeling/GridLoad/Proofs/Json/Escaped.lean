import GridLoad.Json.Reader

/-!
Escaped texts are read back as they were, and end at the quote after them.
-/

set_option autoImplicit false

namespace GridLoad.Json

-- A string's lexeme is read whole, up to the closing quote.
def ReadsString (lexeme : Lexeme) : Prop := ∀ rest, readString (lexeme ++ '"' :: rest) = some (lexeme, rest)

theorem hex_digit_value : ∀ n < 16, hexValue? (Nat.digitChar n) = some n := by decide

theorem hex_four_low {n : Nat} (small : n < 0x20) :
    hexFour? '0' '0' (Nat.digitChar (n / 16)) (Nat.digitChar (n % 16)) = some n := by
  have zero : hexValue? '0' = some 0 := by decide
  have high := hex_digit_value (n / 16) (by omega)
  have low := hex_digit_value (n % 16) (by omega)
  simp only [hexFour?, zero, high, low, Option.bind_eq_bind, Option.bind_some, Option.some.injEq]
  omega

-- How a character is escaped: by a letter, by its number, or not at all.
inductive EscapedAs (c : Char) : Lexeme → Prop
  | letter (e : Char) (means : simpleEscape? e = some c) (other : e ≠ 'u') : EscapedAs c ['\\', e]
  | number (small : c.toNat < 0x20) :
      EscapedAs c ['\\', 'u', '0', '0', Nat.digitChar (c.toNat / 16), Nat.digitChar (c.toNat % 16)]
  | plain (large : 0x20 ≤ c.toNat) (quote : c ≠ '"') (stroke : c ≠ '\\') : EscapedAs c [c]

theorem escaped_as (c : Char) : EscapedAs c (escapeChar c) := by
  unfold escapeChar
  split
  · exact .letter '"' rfl (by decide)
  · exact .letter '\\' rfl (by decide)
  · exact .letter 'b' rfl (by decide)
  · exact .letter 'f' rfl (by decide)
  · exact .letter 'n' rfl (by decide)
  · exact .letter 'r' rfl (by decide)
  · exact .letter 't' rfl (by decide)
  · rename_i quote stroke _ _ _ _ _
    split
    · rename_i small
      exact .number small
    · rename_i large
      exact .plain (by omega) quote stroke

section

variable {c : Char} {lexeme rest : Lexeme}

theorem read_escaped (escaped : EscapedAs c lexeme) :
    readString (lexeme ++ rest) = (readString rest).map fun r => (lexeme ++ r.1, r.2) := by
  cases escaped with
  | letter e means other =>
      rw [List.cons_append, List.cons_append, List.nil_append, readString]
      · simp only [means]
        rfl
      · intro _ _ _ _ _ same
        exact absurd same other
  | number small =>
      simp only [List.cons_append, List.nil_append]
      rw [readString]
      simp only [hex_four_low small]
  | plain large quote stroke =>
      rw [List.cons_append, List.nil_append, readString]
      · have shown : isRefused c = false := by
          simp only [isRefused, stroke, decide_false, Bool.or_false, Bool.and_eq_false_imp, decide_eq_true_eq]
          omega
        simp only [shown, Bool.false_eq_true, if_false]
        rfl
      · exact quote
      · intro _ _ _ _ _ same
        exact absurd same stroke
      · intro _ _ same
        exact absurd same stroke

theorem small_number {n : Nat} (small : n < 0x20) : isHighSurrogate n = false ∧ isLowSurrogate n = false := by
  simp only [isHighSurrogate, isLowSurrogate, Bool.and_eq_false_imp, decide_eq_true_eq, decide_eq_false_iff_not]
  omega

-- A second number may follow, but it is not taken along.
theorem unescape_number (small : c.toNat < 0x20) :
    unescape ('\\' :: 'u' :: '0' :: '0' :: Nat.digitChar (c.toNat / 16) :: Nat.digitChar (c.toNat % 16) :: rest) =
      (unescape rest).map (c :: ·) := by
  obtain ⟨high, low⟩ := small_number small
  by_cases again : ∃ e f g h more, rest = '\\' :: 'u' :: e :: f :: g :: h :: more
  · obtain ⟨e, f, g, h, more, rfl⟩ := again
    rw [unescape]
    simp only [hex_four_low small, high, low, Bool.false_eq_true, if_false, Char.ofNat_toNat]
  · rw [unescape]
    · simp only [hex_four_low small, high, low, Bool.or_self, Bool.false_eq_true, if_false, Char.ofNat_toNat]
    · intro e f g h more same
      exact again ⟨e, f, g, h, more, same⟩

theorem unescape_escaped (escaped : EscapedAs c lexeme) :
    unescape (lexeme ++ rest) = (unescape rest).map (c :: ·) := by
  cases escaped with
  | letter e means other =>
      rw [List.cons_append, List.cons_append, List.nil_append, unescape]
      · simp only [means]
      · intro _ _ _ _ _ _ _ _ _ same
        exact absurd same other
      · intro _ _ _ _ _ same
        exact absurd same other
  | number small => exact unescape_number small
  | plain large quote stroke =>
      rw [List.cons_append, List.nil_append, unescape]
      · have known : c ≠ Text.strayMark := by
          rintro rfl
          exact absurd large (by decide)
        rw [if_neg known]
      · intro _ _ _ _ _ _ _ _ _ same
        exact absurd same stroke
      · intro _ _ _ _ _ same
        exact absurd same stroke
      · intro _ _ same
        exact absurd same stroke
      · exact fun same _ => absurd same stroke

end

theorem escape_reads (text : String) : ReadsString (escape text) := by
  intro rest
  unfold escape
  induction text.toList with
  | nil => rfl
  | cons c more ih =>
      rw [List.flatMap_cons, List.append_assoc, read_escaped (escaped_as c), ih]
      rfl

theorem escape_means (text : String) : textOf? (escape text) = some text := by
  have chars : ∀ chars : List Char, unescape (chars.flatMap escapeChar) = some chars := by
    intro chars
    induction chars with
    | nil => rfl
    | cons c more ih =>
        rw [List.flatMap_cons, unescape_escaped (escaped_as c), ih]
        rfl
  rw [textOf?, escape, chars, Option.map_some, String.ofList_toList]

theorem escape_injective {text other : String} (same : escape text = escape other) : text = other := by
  have read := escape_means text
  rw [same, escape_means other] at read
  exact (Option.some.inj read).symm

end GridLoad.Json
