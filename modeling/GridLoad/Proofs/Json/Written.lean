import GridLoad.Proofs.Decimal.Written
import GridLoad.Proofs.Json.Escaped

/-!
What is written of a document is read back as the same document, so that its text tells it from every other.
-/

set_option autoImplicit false

namespace GridLoad.Json

open GridLoad.Text
open GridLoad.Decimal (Spelling)

-- What may stand after a value.
def Ends (text : List Char) : Prop := ∀ c more, text = c :: more → c = ',' ∨ c = ']' ∨ c = '\x7d'

-- A number's lexeme is read whole.
structure ReadsNumber (lexeme : Lexeme) : Prop where
  begun : ∃ c more, lexeme = c :: more ∧ (c.isDigit = true ∨ c = '-')
  read : ∀ rest, Ends rest → readNumber (lexeme ++ rest) = some (lexeme, rest)

mutual
-- All lexemes can be read.
def Legible : Json → Prop
  | .null => True
  | .bool _ => True
  | .number lexeme => ReadsNumber lexeme
  | .string lexeme => ReadsString lexeme
  | .array items => ItemsLegible items
  | .object fields => FieldsLegible fields
def ItemsLegible : List Json → Prop
  | [] => True
  | item :: rest => Legible item ∧ ItemsLegible rest
def FieldsLegible : List (Lexeme × Json) → Prop
  | [] => True
  | (name, value) :: rest => ReadsString name ∧ Legible value ∧ FieldsLegible rest
end

mutual
-- The count with which a value is read.
def rounds : Json → Nat
  | .array items => itemsRounds items + 1
  | .object fields => fieldsRounds fields + 1
  | _ => 1
def itemsRounds : List Json → Nat
  | [] => 0
  | item :: rest => max (rounds item) (itemsRounds rest) + 1
def fieldsRounds : List (Lexeme × Json) → Nat
  | [] => 0
  | (_, value) :: rest => max (rounds value) (fieldsRounds rest) + 1
end

section

variable {s : Spelling} {rest : List Char}

theorem ends_nil : Ends [] := fun _ _ same => nomatch same

theorem ends_cons {c : Char} (closes : c = ',' ∨ c = ']' ∨ c = '\x7d') : Ends (c :: rest) := by
  intro d more same
  cases same
  exact closes

theorem ends_stops (ends : Ends rest) : Stops rest := by
  intro c more same
  rcases ends c more same with rfl | rfl | rfl <;> rfl

theorem read_digits {digits : List Char} (all : Digits digits) (begun : digits ≠ []) (stops : Stops rest) :
    readDigits (digits ++ rest) = some (digits, rest) := by
  have some : digits.isEmpty = false := by simpa using begun
  simp only [readDigits, take_digits all stops, drop_digits all stops, some, Bool.false_eq_true, if_false]

theorem read_whole (proper : s.Proper) (stops : Stops rest) : readWhole (s.whole ++ rest) = some (s.whole, rest) := by
  cases begins : s.whole with
  | nil => exact absurd begins proper.begun
  | cons c more =>
      by_cases zero : c = '0'
      · subst zero
        have alone : s.whole = ['0'] := proper.plain (by rw [begins]; rfl)
        rw [begins] at alone
        cases alone
        cases rest with
        | nil => rfl
        | cons d later => simp [readWhole, stops d later rfl]
      · have read : readWhole (c :: more ++ rest) = readDigits (c :: more ++ rest) := by
          rw [List.cons_append, readWhole]
          intro later same
          exact absurd (List.cons.inj same).1 zero
        rw [read]
        refine read_digits ?_ (by simp) stops
        rw [← begins]
        exact proper.whole

theorem read_fraction (proper : s.Proper) (stops : Stops rest) (pointless : ∀ more, rest ≠ '.' :: more) :
    readFraction (s.fractionText ++ rest) = some (s.fractionText, rest) := by
  unfold Spelling.fractionText
  cases fraction : s.fraction with
  | nil =>
      simp only [List.isEmpty_nil, if_true, List.nil_append]
      unfold readFraction
      split
      · rename_i more
        exact absurd rfl (pointless more)
      · rfl
  | cons c more =>
      have digits := proper.fraction
      rw [fraction] at digits
      simp only [List.isEmpty_cons, Bool.false_eq_true, if_false, List.cons_append, readFraction]
      rw [← List.cons_append, read_digits digits (by simp) stops]
      rfl

theorem read_exponent (ends : Ends rest) : readExponent (s.exponentPart ++ rest) = some (s.exponentPart, rest) := by
  unfold Spelling.exponentPart
  cases s.exponent with
  | none =>
      cases rest with
      | nil => rfl
      | cons c more => rcases ends c more rfl with rfl | rfl | rfl <;> rfl
  | some e =>
      have digits : Digits (Decimal.digitsOf e.natAbs) := written_digits _
      have begun : Decimal.digitsOf e.natAbs ≠ [] := Nat.toDigits_ne_nil
      have read := read_digits digits begun (ends_stops ends)
      by_cases negative : e < 0
      · simp only [negative, if_true, List.cons_append, readExponent, decide_true, Bool.true_or, Bool.or_true, read]
        rfl
      · simp only [negative, if_false, List.cons_append, readExponent, decide_true, Bool.true_or, if_true, read]
        rfl

theorem exponent_part_pointless (ends : Ends rest) : ∀ more, s.exponentPart ++ rest ≠ '.' :: more := by
  intro more same
  unfold Spelling.exponentPart at same
  cases exponent : s.exponent with
  | none =>
      rw [exponent] at same
      rcases ends '.' more same with other | other | other <;> cases other
  | some e =>
      rw [exponent] at same
      cases same

theorem exponent_part_stopped (ends : Ends rest) : Stops (s.exponentPart ++ rest) := by
  unfold Spelling.exponentPart
  cases s.exponent with
  | none => exact ends_stops ends
  | some e => exact stops_cons rfl

theorem tail_stopped (ends : Ends rest) : Stops (s.fractionText ++ (s.exponentPart ++ rest)) := by
  unfold Spelling.fractionText
  split
  · exact exponent_part_stopped ends
  · exact stops_cons rfl

theorem read_sign (proper : s.Proper) (negative : Bool) :
    readSign ((if negative then ['-'] else []) ++ (s.whole ++ rest)) =
      (if negative then ['-'] else [], s.whole ++ rest) := by
  cases negative with
  | true => rfl
  | false =>
      obtain ⟨c, more, begins, _, plain⟩ := Decimal.whole_begins proper
      simp [readSign, begins, plain]

theorem spelling_reads (proper : s.Proper) (negative : Bool) :
    ReadsNumber ((if negative then ['-'] else []) ++ s.text) where
  begun := by
    cases negative with
    | true => exact ⟨'-', s.text, rfl, .inr rfl⟩
    | false =>
        obtain ⟨c, more, begins, digit, _⟩ := Decimal.whole_begins proper
        exact ⟨c, more ++ (s.fractionText ++ s.exponentPart), by simp [Spelling.text, begins], .inl digit⟩
  read rest ends := by
    have text : (if negative then ['-'] else []) ++ s.text ++ rest =
        (if negative then ['-'] else []) ++ (s.whole ++ (s.fractionText ++ (s.exponentPart ++ rest))) := by
      simp only [Spelling.text, List.append_assoc]
    rw [text]
    simp only [readNumber, read_sign proper negative, read_whole proper (tail_stopped ends),
      read_fraction proper (exponent_part_stopped ends) (exponent_part_pointless ends), read_exponent ends,
      Option.bind_eq_bind, Option.bind_some, Spelling.text, List.append_assoc]

end

theorem float_legible (x : Float) : Legible (float x) := by
  unfold float
  split
  · rename_i finite
    show ReadsNumber _
    rw [Decimal.write_finite finite]
    exact spelling_reads (Decimal.binary_proper (Decimal.binary_canonical x)) _
  · trivial

theorem str_legible (text : String) : Legible (str text) := escape_reads text

theorem digit_ne {c d : Char} (digit : c.isDigit = true) (other : d.isDigit = false) : c ≠ d := by
  rintro rfl
  rw [digit] at other
  cases other

theorem digit_no_space {c : Char} (digit : c.isDigit = true) : isSpace c = false := by
  simp only [isSpace, digit_ne digit (d := ' ') rfl, digit_ne digit (d := '\n') rfl, digit_ne digit (d := '\t') rfl,
    digit_ne digit (d := '\r') rfl, decide_false, Bool.or_self]

theorem record_legible {fields : List (String × Json)} (each : ∀ f ∈ fields, Legible f.2) :
    Legible (record fields) := by
  show FieldsLegible _
  induction fields with
  | nil => trivial
  | cons f rest ih =>
      refine ⟨escape_reads f.1, each f List.mem_cons_self, ?_⟩
      exact ih fun other member => each other (List.mem_cons_of_mem _ member)

-- The first character of a value tells which reader goes on.
theorem chars_begin {j : Json} (legible : Legible j) :
    ∃ c more, chars j = c :: more ∧ isSpace c = false ∧ c ≠ ']' := by
  match j, legible with
  | .null, _ => exact ⟨'n', _, rfl, rfl, by decide⟩
  | .bool true, _ => exact ⟨'t', _, rfl, rfl, by decide⟩
  | .bool false, _ => exact ⟨'f', _, rfl, rfl, by decide⟩
  | .string lexeme, _ => exact ⟨'"', _, rfl, rfl, by decide⟩
  | .array items, _ => exact ⟨'[', _, rfl, rfl, by decide⟩
  | .object fields, _ => exact ⟨'\x7b', _, rfl, rfl, by decide⟩
  | .number lexeme, legible =>
      obtain ⟨c, more, rfl, digit | rfl⟩ := ReadsNumber.begun legible
      · exact ⟨c, more, rfl, digit_no_space digit, digit_ne digit rfl⟩
      · exact ⟨'-', more, rfl, rfl, by decide⟩

theorem items_begin {item : Json} {items : List Json} (legible : ItemsLegible (item :: items)) :
    ∃ c more, itemChars (item :: items) = c :: more ∧ isSpace c = false ∧ c ≠ ']' := by
  obtain ⟨c, more, begun, solid, unclosed⟩ := chars_begin legible.1
  cases items with
  | nil => exact ⟨c, more, begun, solid, unclosed⟩
  | cons next items =>
      refine ⟨c, more ++ ',' :: itemChars (next :: items), ?_, solid, unclosed⟩
      rw [itemChars, begun, List.cons_append]
      simp

theorem fields_begin (field : Lexeme × Json) (fields : List (Lexeme × Json)) :
    ∃ more, fieldChars (field :: fields) = '"' :: more := by
  cases fields with
  | nil => exact ⟨_, rfl⟩
  | cons next fields => exact ⟨_, rfl⟩

theorem skip_none {c : Char} {more : List Char} (solid : isSpace c = false) : skipSpace (c :: more) = c :: more := by
  simp [skipSpace, solid]

theorem read_value_number {lexeme rest : List Char} (reads : ReadsNumber lexeme) (ends : Ends rest) (count : Nat) :
    readValue (count + 1) (lexeme ++ rest) = some (.number lexeme, rest) := by
  have read := reads.read rest ends
  obtain ⟨c, more, rfl, first⟩ := reads.begun
  have other : ∀ d : Char, d.isDigit = false → d ≠ '-' → c ≠ d := by
    intro d nondigit plain
    rcases first with digit | rfl
    · exact digit_ne digit nondigit
    · exact plain.symm
  have solid : isSpace c = false := by
    rcases first with digit | rfl
    · exact digit_no_space digit
    · rfl
  rw [List.cons_append] at read ⊢
  rw [readValue, skip_none solid]
  split
  case h_7 =>
    rw [read]
    rfl
  -- Every other form of a value begins with a character of its own.
  all_goals
    rename_i same
    exact absurd (List.cons.inj same).1 (other _ rfl (by decide))

theorem rounds_pos (j : Json) : 0 < rounds j := by
  cases j <;> simp [rounds]

mutual
theorem read_chars (j : Json) (count : Nat) (rest : List Char) (legible : Legible j) (enough : rounds j ≤ count)
    (ends : Ends rest) : readValue count (chars j ++ rest) = some (j, rest) := by
  obtain ⟨count, rfl⟩ : ∃ less, count = less + 1 := ⟨count - 1, by have positive := rounds_pos j; omega⟩
  match j, legible, enough with
  | .null, _, _ => rfl
  | .bool true, _, _ => rfl
  | .bool false, _, _ => rfl
  | .number lexeme, legible, _ => exact read_value_number legible ends count
  | .string lexeme, legible, _ =>
      have text : chars (.string lexeme) ++ rest = '"' :: (lexeme ++ '"' :: rest) := by
        simp [chars, quotedLexeme]
      have read : readString (lexeme ++ '"' :: rest) = some (lexeme, rest) := legible rest
      rw [text, readValue, skip_none rfl]
      simp only [read, Option.map_some]
  | .array [], _, _ => rfl
  | .array (item :: items), legible, enough =>
      have read := read_items item items count rest legible (Nat.le_of_succ_le_succ enough)
      have text : chars (.array (item :: items)) ++ rest = '[' :: (itemChars (item :: items) ++ ']' :: rest) := by
        simp [chars]
      obtain ⟨c, more, begun, solid, unclosed⟩ := items_begin legible
      rw [text, readValue, skip_none rfl]
      rw [begun, List.cons_append] at read ⊢
      simp only [skip_none solid]
      split
      · rename_i same
        exact absurd (List.cons.inj same).1 unclosed
      · rw [read]
        rfl
  | .object [], _, _ => rfl
  | .object (field :: fields), legible, enough =>
      have read := read_fields field fields count rest legible (Nat.le_of_succ_le_succ enough)
      have text : chars (.object (field :: fields)) ++ rest =
          '\x7b' :: (fieldChars (field :: fields) ++ '\x7d' :: rest) := by simp [chars]
      obtain ⟨more, begun⟩ := fields_begin field fields
      rw [text, readValue, skip_none rfl]
      rw [begun, List.cons_append] at read ⊢
      simp only [skip_none (c := '"') rfl]
      split
      · rename_i same
        exact absurd (List.cons.inj same).1 (by decide)
      · rw [read]
        rfl
termination_by count
theorem read_items (item : Json) (items : List Json) (count : Nat) (rest : List Char)
    (legible : ItemsLegible (item :: items)) (enough : itemsRounds (item :: items) ≤ count) :
    readItems count (itemChars (item :: items) ++ ']' :: rest) = some (item :: items, rest) := by
  obtain ⟨count, rfl⟩ : ∃ less, count = less + 1 := ⟨count - 1, by simp only [itemsRounds] at enough; omega⟩
  simp only [itemsRounds, Nat.add_le_add_iff_right, Nat.max_le] at enough
  cases items with
  | nil =>
      have read := read_chars item count (']' :: rest) legible.1 enough.1 (ends_cons (by simp))
      simp only [itemChars, readItems, read, Option.bind_eq_bind, Option.bind_some, skip_none (c := ']') rfl]
  | cons next items =>
      have read := read_chars item count (',' :: (itemChars (next :: items) ++ ']' :: rest)) legible.1 enough.1
        (ends_cons (by simp))
      have others := read_items next items count rest legible.2 enough.2
      have text : itemChars (item :: next :: items) ++ ']' :: rest =
          chars item ++ ',' :: (itemChars (next :: items) ++ ']' :: rest) := by simp [itemChars]
      rw [text, readItems, read]
      simp only [Option.bind_eq_bind, Option.bind_some, skip_none (c := ',') rfl, others, Option.map_some]
termination_by count
theorem read_fields (field : Lexeme × Json) (fields : List (Lexeme × Json)) (count : Nat) (rest : List Char)
    (legible : FieldsLegible (field :: fields)) (enough : fieldsRounds (field :: fields) ≤ count) :
    readFields count (fieldChars (field :: fields) ++ '\x7d' :: rest) = some (field :: fields, rest) := by
  obtain ⟨count, rfl⟩ : ∃ less, count = less + 1 := ⟨count - 1, by simp only [fieldsRounds] at enough; omega⟩
  obtain ⟨name, value⟩ := field
  simp only [fieldsRounds, Nat.add_le_add_iff_right, Nat.max_le] at enough
  cases fields with
  | nil =>
      have text : fieldChars [(name, value)] ++ '\x7d' :: rest =
          '"' :: (name ++ '"' :: (':' :: (chars value ++ '\x7d' :: rest))) := by simp [fieldChars, quotedLexeme]
      have key := legible.1 (':' :: (chars value ++ '\x7d' :: rest))
      have read := read_chars value count ('\x7d' :: rest) legible.2.1 enough.1 (ends_cons (by simp))
      rw [text, readFields, skip_none rfl]
      simp only [key, Option.bind_eq_bind, Option.bind_some, skip_none (c := ':') rfl, read,
        skip_none (c := '\x7d') rfl]
  | cons next fields =>
      have text : fieldChars ((name, value) :: next :: fields) ++ '\x7d' :: rest =
          '"' :: (name ++ '"' :: (':' :: (chars value ++ ',' :: (fieldChars (next :: fields) ++ '\x7d' :: rest)))) := by
        simp [fieldChars, quotedLexeme]
      have key := legible.1 (':' :: (chars value ++ ',' :: (fieldChars (next :: fields) ++ '\x7d' :: rest)))
      have read := read_chars value count (',' :: (fieldChars (next :: fields) ++ '\x7d' :: rest)) legible.2.1 enough.1
        (ends_cons (by simp))
      have others := read_fields next fields count rest legible.2.2 enough.2
      rw [text, readFields, skip_none rfl]
      simp only [key, Option.bind_eq_bind, Option.bind_some, skip_none (c := ':') rfl, read,
        skip_none (c := ',') rfl, others, Option.map_some]
termination_by count
end

-- Documents of one text are one.
theorem text_injective {j k : Json} (legible : Legible j) (legible' : Legible k) (same : j.text = k.text) : j = k := by
  have chars : j.chars = k.chars := String.ofList_injective same
  have first := read_chars j (max (rounds j) (rounds k)) [] legible (Nat.le_max_left _ _) ends_nil
  have second := read_chars k (max (rounds j) (rounds k)) [] legible' (Nat.le_max_right _ _) ends_nil
  rw [chars, second] at first
  exact (Prod.mk.inj (Option.some.inj first)).1.symm

end GridLoad.Json
