import GridLoad.Proofs.Feature.Supplied
import GridLoad.Proofs.Text.Digits
import GridLoad.Web.Reading

/-!
Horizons that a query lists. The list is cut at its commas, the blanks around what stands between them are dropped, and
what then is empty counts for nothing. Each token that remains has to be a number of at most 32 bits in digits, which
may have a plus sign and zeros before it. The first token that is none is the one that is named.
-/

set_option autoImplicit false

namespace GridLoad.Web

open GridLoad.Text (isBlank trim trimLeft trimRight Digits)

section Pieces

-- What the marks in a text part. With a mark between each two of them they are the text again.
structure Pieces (mark : Char) (text : List Char) (pieces : List (List Char)) : Prop where
  some : pieces ≠ []
  joined : [mark].intercalate pieces = text
  unmarked : ∀ piece ∈ pieces, mark ∉ piece

variable {mark : Char} {text : List Char} {pieces : List (List Char)}

theorem split_some (mark : Char) (text : List Char) : text.splitOn mark ≠ [] := fun none =>
  List.splitOn_ne_nil _ _ none

theorem split_unmarked (mark : Char) (text : List Char) : ∀ piece ∈ text.splitOn mark, mark ∉ piece := by
  induction text with
  | nil => simp
  | cons c rest ih =>
      rw [List.splitOn_cons_eq_if_modifyHead]
      split
      next same => simpa using ih
      next other =>
        have apart : mark ≠ c := fun same => other (beq_iff_eq.mpr same.symm)
        cases split : rest.splitOn mark with
        | nil => exact absurd split (split_some mark rest)
        | cons first later =>
            rw [split] at ih
            simpa [apart] using ih

theorem pieces_iff : Pieces mark text pieces ↔ text.splitOn mark = pieces := by
  constructor
  · rintro ⟨some, rfl, unmarked⟩
    exact List.splitOn_intercalate mark unmarked some
  · rintro rfl
    exact ⟨split_some mark text, List.intercalate_splitOn mark, split_unmarked mark text⟩

end Pieces

section Trimmed

-- A text without the blanks at its ends.
structure Trims (text inner : List Char) : Prop where
  around : ∃ before after, text = before ++ (inner ++ after) ∧ (∀ c ∈ before, isBlank c = true) ∧
    ∀ c ∈ after, isBlank c = true
  front : ∀ c, inner.head? = some c → isBlank c = false
  back : ∀ c, inner.getLast? = some c → isBlank c = false

variable {text inner after : List Char}

theorem trim_left_blank (blank : ∀ c ∈ text, isBlank c = true) : trimLeft text = [] :=
  List.dropWhile_eq_nil_iff.mpr blank

theorem trim_left_stands (front : ∀ c, text.head? = some c → isBlank c = false) : trimLeft text = text := by
  cases text with
  | nil => rfl
  | cons c rest => exact List.dropWhile_cons_of_neg (by simp [front c rfl])

theorem trim_right_blank (blank : ∀ c ∈ after, isBlank c = true) : trimRight (text ++ after) = trimRight text := by
  unfold trimRight
  rw [List.reverse_append, List.dropWhile_append_of_pos fun c member => blank c (List.mem_reverse.mp member)]

theorem trim_right_stands (back : ∀ c, text.getLast? = some c → isBlank c = false) : trimRight text = text := by
  have stands : trimLeft text.reverse = text.reverse :=
    trim_left_stands fun c head => back c (by rwa [List.head?_reverse] at head)
  rw [trimRight, ← trimLeft, stands, List.reverse_reverse]

theorem trim_right_split (text : List Char) :
    trimRight text ++ (text.reverse.takeWhile isBlank).reverse = text := by
  rw [trimRight, ← List.reverse_append, List.takeWhile_append_dropWhile, List.reverse_reverse]

theorem trims_trim (text : List Char) : Trims text (trim text) := by
  have split : trim text ++ ((trimLeft text).reverse.takeWhile isBlank).reverse = trimLeft text :=
    trim_right_split (trimLeft text)
  refine ⟨⟨text.takeWhile isBlank, ((trimLeft text).reverse.takeWhile isBlank).reverse, ?_, ?_, ?_⟩, ?_, ?_⟩
  · rw [split]
    exact List.takeWhile_append_dropWhile.symm
  · exact fun c member => List.mem_takeWhile_imp member
  · exact fun c member => List.mem_takeWhile_imp (List.mem_reverse.mp member)
  · intro c head
    have first : (trimLeft text).head? = some c := by rw [← split, List.head?_append, head]; rfl
    have unblank := List.head?_dropWhile_not isBlank text
    rw [← trimLeft, first] at unblank
    exact unblank
  · intro c last
    have unblank := List.head?_dropWhile_not isBlank (trimLeft text).reverse
    rw [trim, trimRight, List.getLast?_reverse] at last
    rw [last] at unblank
    exact unblank

theorem trims_iff : Trims text inner ↔ trim text = inner := by
  constructor
  · rintro ⟨⟨before, after, rfl, blankBefore, blankAfter⟩, front, back⟩
    have left : trimLeft (before ++ (inner ++ after)) = trimLeft (inner ++ after) :=
      List.dropWhile_append_of_pos blankBefore
    rw [trim, left]
    cases inner with
    | nil =>
        rw [List.nil_append, trim_left_blank blankAfter]
        rfl
    | cons c rest =>
        have stands : trimLeft (c :: rest ++ after) = c :: rest ++ after :=
          trim_left_stands fun d head => front d head
        rw [stands, trim_right_blank blankAfter, trim_right_stands back]
  · rintro rfl
    exact trims_trim text

end Trimmed

section Tokens

-- What stands between the commas of a text, without blanks, as far as something stands there.
def HorizonTokens (text : String) (tokens : List String) : Prop :=
  ∃ pieces trimmed, Pieces ',' text.toList pieces ∧ List.Forall₂ Trims pieces trimmed ∧
    tokens = (trimmed.filter (· ≠ [])).map String.ofList

variable {text : String} {tokens : List String}

def tokensFound (text : String) : List String :=
  ((parts ',' text).map fun part => String.ofList (trim part.toList)).filter (· ≠ "")

theorem tokens_found_eq (text : String) :
    tokensFound text = (((text.toList.splitOn ',').map trim).filter (· ≠ [])).map String.ofList := by
  unfold tokensFound parts
  rw [List.map_map, List.filter_map, List.filter_map, List.map_map]
  simp [Function.comp_def]

theorem tokens_found_iff : HorizonTokens text tokens ↔ tokens = tokensFound text := by
  have trimmed (pieces inner) : List.Forall₂ Trims pieces inner ↔ pieces.map trim = inner := by
    rw [← List.forall₂_eq_eq_eq, List.forall₂_map_left_iff]
    exact ⟨fun all => all.imp fun _ _ => trims_iff.mp, fun all => all.imp fun _ _ => trims_iff.mpr⟩
  simp only [HorizonTokens, pieces_iff, trimmed, tokens_found_eq]
  simp

end Tokens

section Numerals

-- A token that is a number of at most 32 bits, in digits with or without a plus sign.
structure WritesHorizon (token : String) (n : Nat) : Prop where
  written : ∃ sign digits, token.toList = sign ++ digits ∧ (sign = [] ∨ sign = ['+']) ∧ digits ≠ [] ∧ Digits digits ∧
    Nat.ofDigitChars 10 digits 0 = n
  small : n < 2 ^ 32

variable {token : String} {n : Nat}

theorem word_of_digits_iff (digits : List Char) :
    (if !digits.isEmpty && digits.all Char.isDigit && Decimal.natOfDigits digits < wordLimit 32 then
        some (Decimal.natOfDigits digits) else none) = some n ↔
      digits ≠ [] ∧ Digits digits ∧ Nat.ofDigitChars 10 digits 0 = n ∧ n < 2 ^ 32 := by
  have limit : wordLimit 32 = 2 ^ 32 := rfl
  rw [Option.ite_none_right_eq_some, Text.nat_of_digits_eq, limit]
  simp only [Bool.and_eq_true, Bool.not_eq_true', List.isEmpty_eq_false_iff, List.all_eq_true, decide_eq_true_eq,
    Option.some.injEq, Digits]
  constructor
  · rintro ⟨⟨⟨some, digits⟩, small⟩, rfl⟩
    exact ⟨some, digits, rfl, small⟩
  · rintro ⟨some, digits, rfl, small⟩
    exact ⟨⟨⟨some, digits⟩, small⟩, rfl⟩

theorem horizon_of_text_iff : horizonOfText? token = some n ↔ WritesHorizon token n := by
  unfold horizonOfText?
  rw [word_of_digits_iff]
  split
  next rest signed =>
    constructor
    · rintro ⟨some, digits, value, small⟩
      exact ⟨⟨['+'], rest, signed, .inr rfl, some, digits, value⟩, small⟩
    · rintro ⟨⟨sign, run, split, rfl | rfl, some, digits, value⟩, small⟩
      · -- The sign would be one of the digits.
        have plus : '+' ∈ run := by
          rw [← List.nil_append run, ← split, signed]
          exact List.mem_cons_self
        exact absurd (digits '+' plus) (by decide)
      · cases signed.symm.trans split
        exact ⟨some, digits, value, small⟩
  next unsigned =>
    constructor
    · rintro ⟨some, digits, value, small⟩
      exact ⟨⟨[], token.toList, rfl, .inl rfl, some, digits, value⟩, small⟩
    · rintro ⟨⟨sign, run, split, rfl | rfl, some, digits, value⟩, small⟩
      · rw [split]
        exact ⟨some, digits, value, small⟩
      · exact absurd split (unsigned run)

end Numerals

section Lists

theorem bind_stops {ε α β : Type} {a : Except ε α} {next : α → Except ε β} {fault : ε} :
    a >>= next = .error fault ↔ a = .error fault ∨ ∃ x, a = .ok x ∧ next x = .error fault := by
  cases a <;> simp [bind, Except.bind]

theorem related_iff {α β : Type} {R : α → β → Prop} {xs : List α} :
    (∃ ys, List.Forall₂ R xs ys) ↔ ∀ x ∈ xs, ∃ y, R x y := by
  induction xs with
  | nil => simp
  | cons x rest ih =>
      rw [List.forall_mem_cons, ← ih]
      constructor
      · rintro ⟨_, related⟩
        cases related with
        | cons first later => exact ⟨⟨_, first⟩, _, later⟩
      · rintro ⟨⟨y, first⟩, ys, later⟩
        exact ⟨y :: ys, .cons first later⟩

variable {text : String} {tokens : List String} {horizons : List Nat}

def horizonOr (token : String) : Except String Nat :=
  match horizonOfText? token with
  | some horizon => .ok horizon
  | none => .error ("horizon " ++ Text.quoted token ++ " is not a whole number of hours")

theorem horizon_or_passes {token : String} {horizon : Nat} :
    horizonOr token = .ok horizon ↔ WritesHorizon token horizon := by
  rw [← horizon_of_text_iff, horizonOr]
  cases horizonOfText? token <;> simp

theorem horizon_or_fails {token message : String} :
    horizonOr token = .error message ↔ (∀ horizon, ¬ WritesHorizon token horizon) ∧
      message = "horizon " ++ Text.quoted token ++ " is not a whole number of hours" := by
  simp only [← horizon_of_text_iff, horizonOr]
  cases horizonOfText? token <;> simp [eq_comm]

theorem horizons_of_text_eq (listed : HorizonTokens text tokens) :
    horizonsOfText text = (do
      let horizons ← tokens.mapM horizonOr
      if horizons.isEmpty then .error "at least one horizon is required" else .ok horizons) := by
  cases tokens_found_iff.mp listed
  rfl

theorem horizons_listed (listed : HorizonTokens text tokens) :
    horizonsOfText text = .ok horizons ↔ tokens ≠ [] ∧ List.Forall₂ WritesHorizon tokens horizons := by
  simp only [horizons_of_text_eq listed, bind_passes, mapM_passes, horizon_or_passes]
  constructor
  · rintro ⟨read, written, done⟩
    cases written with
    | nil => cases done
    | cons first later =>
        cases done
        exact ⟨nofun, .cons first later⟩
  · rintro ⟨some, written⟩
    refine ⟨horizons, written, ?_⟩
    cases written with
    | nil => exact absurd rfl some
    | cons first later => rfl

theorem horizons_refused {message : String} (listed : HorizonTokens text tokens) :
    horizonsOfText text = .error message ↔
      (tokens = [] ∧ message = "at least one horizon is required") ∨
        ∃ before bad after, tokens = before ++ bad :: after ∧ (∀ token ∈ before, ∃ n, WritesHorizon token n) ∧
          (∀ n, ¬ WritesHorizon bad n) ∧
          message = "horizon " ++ Text.quoted bad ++ " is not a whole number of hours" := by
  rw [horizons_of_text_eq listed, bind_stops]
  simp only [mapM_stops, mapM_passes, horizon_or_passes, horizon_or_fails]
  constructor
  · rintro (stopped | ⟨read, written, none⟩)
    · exact .inr stopped
    · cases written with
      | nil =>
          cases none
          exact .inl ⟨rfl, rfl⟩
      | cons first later => cases none
  · rintro (⟨rfl, rfl⟩ | stopped)
    · exact .inr ⟨[], .nil, rfl⟩
    · exact .inl stopped

end Lists

section Joined

variable {n : Nat} {horizons : List Nat}

theorem digit_not_blank {c : Char} (digit : c.isDigit = true) : isBlank c = false := by
  have low : 48 ≤ c.toNat ∧ c.toNat ≤ 57 := by
    simpa [Char.isDigit, UInt32.le_iff_toNat_le] using digit
  simp only [isBlank, Text.Ranges.has, Text.blankRanges, List.any_cons, List.any_nil, Bool.or_eq_false_iff,
    Bool.and_eq_false_iff, decide_eq_false_iff_not, and_true]
  omega

theorem digits_trim {digits : List Char} (all : Digits digits) : Trims digits digits where
  around := ⟨[], [], by simp, nofun, nofun⟩
  front c head := digit_not_blank (all c (List.mem_of_mem_head? head))
  back c last := digit_not_blank (all c (List.mem_of_mem_getLast? last))

theorem comma_not_written (n : Nat) : ',' ∉ Nat.toDigits 10 n := fun member =>
  absurd (Text.written_digits n ',' member) (by decide)

theorem written_horizon (small : n < 2 ^ 32) : WritesHorizon (toString n) n where
  written := ⟨[], Nat.toDigits 10 n, by simp, .inl rfl, Nat.toDigits_ne_nil, Text.written_digits n,
    Text.nat_of_written n⟩
  small := small

theorem joined_tokens (some : horizons ≠ []) :
    HorizonTokens (",".intercalate (horizons.map toString)) (horizons.map toString) := by
  refine ⟨horizons.map (Nat.toDigits 10), horizons.map (Nat.toDigits 10), ⟨by simpa using some, ?_, ?_⟩, ?_, ?_⟩
  · simp [String.toList_intercalate, Function.comp_def]
  · simpa using fun n _ => comma_not_written n
  · exact List.forall₂_same.mpr (by simpa using fun n _ => digits_trim (Text.written_digits n))
  · have begun : (horizons.map (Nat.toDigits 10)).filter (· ≠ []) = horizons.map (Nat.toDigits 10) :=
      List.filter_eq_self.mpr (by simp)
    rw [begun]
    simp [Function.comp_def, ← Nat.repr_eq_ofList_toDigits]

theorem joined_read (some : horizons ≠ []) (small : ∀ n ∈ horizons, n < 2 ^ 32) :
    horizonsOfText (",".intercalate (horizons.map toString)) = .ok horizons := by
  refine (horizons_listed (joined_tokens some)).mpr ⟨by simpa using some, ?_⟩
  exact List.forall₂_map_left_iff.mpr (List.forall₂_same.mpr fun n member => written_horizon (small n member))

end Joined

/--
A list of horizons is read just if it has tokens and each of them is a number of at most 32 bits; it then gives these
numbers, in order and as often as they stand there. Else the first token that is no such number is named, or it is said
that there has to be one. Numbers that are written with commas between them are read back.
-/
theorem horizons_read :
    (∀ text, ∃! tokens, HorizonTokens text tokens) ∧
    (∀ text tokens, HorizonTokens text tokens →
      (∀ horizons, horizonsOfText text = .ok horizons ↔
        tokens ≠ [] ∧ List.Forall₂ WritesHorizon tokens horizons) ∧
      ((∃ horizons, horizonsOfText text = .ok horizons) ↔
        tokens ≠ [] ∧ ∀ token ∈ tokens, ∃ horizon, WritesHorizon token horizon) ∧
      ∀ message, horizonsOfText text = .error message ↔
        (tokens = [] ∧ message = "at least one horizon is required") ∨
          ∃ before bad after, tokens = before ++ bad :: after ∧
            (∀ token ∈ before, ∃ horizon, WritesHorizon token horizon) ∧ (∀ horizon, ¬ WritesHorizon bad horizon) ∧
            message = "horizon " ++ Text.quoted bad ++ " is not a whole number of hours") ∧
    ∀ horizons : List Nat, horizons ≠ [] → (∀ horizon ∈ horizons, horizon < 2 ^ 32) →
      horizonsOfText (",".intercalate (horizons.map toString)) = .ok horizons := by
  have found (text : String) : ∃! tokens, HorizonTokens text tokens :=
    ⟨tokensFound text, tokens_found_iff.mpr rfl, fun _ => tokens_found_iff.mp⟩
  refine ⟨found, ?_, fun _ => joined_read⟩
  intro text tokens listed
  refine ⟨fun _ => horizons_listed listed, ?_, fun _ => horizons_refused listed⟩
  simp only [horizons_listed listed, exists_and_left, related_iff]

namespace Sample

def spaced : String := " 6,\t+0012\u3000,, 6"

def misspelled : String := "1, two ,3x"

theorem spaced_tokens : HorizonTokens spaced ["6", "+0012", "6"] := tokens_found_iff.mpr (by decide +kernel)

theorem misspelled_tokens : HorizonTokens misspelled ["1", "two", "3x"] := tokens_found_iff.mpr (by decide +kernel)

-- Blanks of any kind, empty tokens, a sign and leading zeros do not matter. The first token that is no number is named,
-- and the number after the last of 32 bits is none.
theorem horizons_listed_variously :
    horizonsOfText spaced = .ok [6, 12, 6] ∧
    horizonsOfText misspelled = .error "horizon \"two\" is not a whole number of hours" ∧
    horizonsOfText "1,4294967296" = .error "horizon \"4294967296\" is not a whole number of hours" ∧
    horizonsOfText " ,\n" = .error "at least one horizon is required" ∧
    horizonsOfText (",".intercalate ([1, 4294967295, 1].map toString)) = .ok [1, 4294967295, 1] := by
  have six : WritesHorizon "6" 6 := horizon_of_text_iff.mp (by decide)
  have twelve : WritesHorizon "+0012" 12 := horizon_of_text_iff.mp (by decide)
  have one : WritesHorizon "1" 1 := horizon_of_text_iff.mp (by decide)
  have two (n : Nat) : ¬ WritesHorizon "two" n := fun written => nomatch horizon_of_text_iff.mpr written
  obtain ⟨-, listed, joined⟩ := horizons_read
  refine ⟨?_, ?_, by decide +kernel, by decide +kernel, joined [1, 4294967295, 1] (by decide) (by decide)⟩
  · exact ((listed _ _ spaced_tokens).1 _).mpr ⟨by decide, .cons six (.cons twelve (.cons six .nil))⟩
  · refine ((listed _ _ misspelled_tokens).2.2 _).mpr (.inr ⟨["1"], "two", ["3x"], rfl, ?_, two, by decide +kernel⟩)
    exact fun token member => ⟨1, List.mem_singleton.mp member ▸ one⟩

end Sample

end GridLoad.Web
