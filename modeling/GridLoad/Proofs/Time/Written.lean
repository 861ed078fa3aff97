import GridLoad.Proofs.Text.Digits
import GridLoad.Proofs.Time.Calendar
import GridLoad.Time.Written

/-!
The text of an instant tells its minute, and the instant itself where a leap second stands at the end of a minute:
elsewhere it would be written like the second after it.
-/

set_option autoImplicit false

namespace GridLoad.Time

open GridLoad.Text
open GridLoad.Decimal (natOfDigits zeros)

section

variable {n m width : Nat} {rest rest' : List Char}

theorem padded_digits (width n : Nat) : Digits (padded width n) :=
  digits_append (zeros_digits _) (written_digits n)

theorem nat_of_padded (width n : Nat) : natOfDigits (padded width n) = n := by
  have zeros_ : padded width n = zeros (width - (Nat.toDigits 10 n).length) ++ Nat.toDigits 10 n := rfl
  rw [zeros_, nat_of_append, nat_of_zeros, Nat.zero_mul, Nat.zero_add, nat_of_written]

-- A padded number and what follows it can be told apart.
theorem padded_split {c c' : Char} (other : c.isDigit = false) (other' : c'.isDigit = false)
    (same : padded width n ++ c :: rest = padded width m ++ c' :: rest') : n = m ∧ rest = rest' := by
  obtain ⟨digits, tail⟩ := digits_split (padded_digits width n) (padded_digits width m) (stops_cons other)
    (stops_cons other') same
  refine ⟨?_, (List.cons.inj tail).2⟩
  rw [← nat_of_padded width n, digits, nat_of_padded]

theorem padded_begin (width n : Nat) : ∃ c more, padded width n = c :: more ∧ c.isDigit = true := by
  cases begins : padded width n with
  | nil => exact absurd (List.append_eq_nil_iff.mp begins).2 Nat.toDigits_ne_nil
  | cons c more => exact ⟨c, more, rfl, padded_digits width n c (by rw [begins]; exact List.mem_cons_self)⟩

theorem signed_unpadded {sign : Char} (nondigit : sign.isDigit = false) :
    sign :: rest ≠ padded width n ++ rest' := by
  intro same
  obtain ⟨c, more, begins, digit⟩ := padded_begin width n
  rw [begins] at same
  rw [← (List.cons.inj same).1, nondigit] at digit
  cases digit

theorem year_split {y z : Int} (same : yearText y ++ '-' :: rest = yearText z ++ '-' :: rest') :
    y = z ∧ rest = rest' := by
  have sign : ∀ y : Int, (if y < 0 then '-' else '+').isDigit = false := by
    intro y
    split <;> rfl
  unfold yearText at same
  by_cases plain : 0 ≤ y ∧ y ≤ 9999
  · by_cases plain' : 0 ≤ z ∧ z ≤ 9999
    · rw [if_pos plain, if_pos plain'] at same
      obtain ⟨years, tails⟩ := padded_split rfl rfl same
      exact ⟨by omega, tails⟩
    · rw [if_pos plain, if_neg plain', List.cons_append] at same
      exact absurd same.symm (signed_unpadded (sign z))
  · by_cases plain' : 0 ≤ z ∧ z ≤ 9999
    · rw [if_neg plain, if_pos plain', List.cons_append] at same
      exact absurd same (signed_unpadded (sign y))
    · rw [if_neg plain, if_neg plain', List.cons_append, List.cons_append] at same
      obtain ⟨signs, others⟩ := List.cons.inj same
      obtain ⟨years, tails⟩ := padded_split rfl rfl others
      refine ⟨?_, tails⟩
      split at signs
      · split at signs
        · omega
        · cases signs
      · split at signs
        · cases signs
        · omega

end

-- A leap second ends a minute, as where an instant is read, and no second has more than a leap second's nanoseconds.
structure Timestamp.Proper (t : Timestamp) : Prop where
  nanos : t.nanos < 2 * Timestamp.perSecond
  leap : t.isLeapSecond = true → t.seconds % 60 = 59

section

variable {t u : Timestamp}

-- The second as it is written, which is 60 for a leap second.
def Timestamp.shownSecond (t : Timestamp) : Nat := t.secondOfDay % 60 + (if t.isLeapSecond then 1 else 0)

def Timestamp.shownNanos (t : Timestamp) : Nat := if t.isLeapSecond then t.nanos - Timestamp.perSecond else t.nanos

def secondText (t : Timestamp) : List Char := padded 2 t.shownSecond ++ (fractionText t.shownNanos ++ ['Z'])

theorem text_split (same : t.text = u.text) :
    t.day = u.day ∧ t.hourOfDay = u.hourOfDay ∧ t.secondOfDay / 60 % 60 = u.secondOfDay / 60 % 60 ∧
      secondText t = secondText u := by
  have chars := String.ofList_injective same
  simp only [List.append_assoc, List.cons_append] at chars
  obtain ⟨year, chars⟩ := year_split chars
  obtain ⟨month, chars⟩ := padded_split rfl rfl chars
  obtain ⟨day, chars⟩ := padded_split rfl rfl chars
  obtain ⟨hour, chars⟩ := padded_split rfl rfl chars
  obtain ⟨minute, chars⟩ := padded_split rfl rfl chars
  have date : Date.ofDays t.day = Date.ofDays u.day := by
    cases first : Date.ofDays t.day
    cases second : Date.ofDays u.day
    simp_all
  have days : t.day = u.day := by rw [← to_days_of_days t.day, date, to_days_of_days]
  exact ⟨days, hour, minute, chars⟩

theorem text_minute (same : t.text = u.text) : t.seconds / 60 = u.seconds / 60 := by
  obtain ⟨days, hour, minute, _⟩ := text_split same
  simp only [Timestamp.day, Timestamp.hourOfDay, Timestamp.secondOfDay, Timestamp.perDay] at days hour minute
  omega

theorem length_padded {width n : Nat} (wide : 0 < width) (fits : n < 10 ^ width) : (padded width n).length = width := by
  have few : (Nat.toDigits 10 n).length ≤ width := (Nat.length_toDigits_le_iff (by decide) wide).mpr fits
  simp only [padded, List.length_append, List.length_replicate]
  omega

theorem fraction_stops (n : Nat) : ∃ c more, fractionText n ++ ['Z'] = c :: more ∧ c.isDigit = false := by
  unfold fractionText
  split
  · exact ⟨_, _, rfl, rfl⟩
  · split
    · exact ⟨_, _, rfl, rfl⟩
    · split <;> exact ⟨_, _, rfl, rfl⟩

-- How a fraction is written: the count of its digits, and the number that they write.
theorem fraction_text_cases {n : Nat} (below : n < 1000000000) :
    (n = 0 ∧ fractionText n = []) ∨
      ∃ width value, fractionText n = '.' :: padded width value ∧ (padded width value).length = width ∧
        n = value * 10 ^ (9 - width) := by
  by_cases zero : n = 0
  · exact .inl ⟨zero, by simp [fractionText, zero]⟩
  · right
    by_cases millis : n % 1000000 = 0
    · refine ⟨3, n / 1000000, by simp [fractionText, zero, millis], length_padded (by decide) (by omega), ?_⟩
      simp only [Nat.reducePow, Nat.reduceSub]
      omega
    · by_cases micros : n % 1000 = 0
      · refine ⟨6, n / 1000, by simp [fractionText, zero, millis, micros], length_padded (by decide) (by omega), ?_⟩
        simp only [Nat.reducePow, Nat.reduceSub]
        omega
      · exact ⟨9, n, by simp [fractionText, zero, millis, micros], length_padded (by decide) (by omega), by simp⟩

theorem fraction_once {n m : Nat} (below : n < 1000000000) (below' : m < 1000000000)
    (same : fractionText n = fractionText m) : n = m := by
  rcases fraction_text_cases below with ⟨zero, text⟩ | ⟨width, value, text, length, number⟩
  · rcases fraction_text_cases below' with ⟨zero', _⟩ | ⟨_, _, text', _, _⟩
    · exact zero.trans zero'.symm
    · rw [text, text'] at same
      cases same
  · rcases fraction_text_cases below' with ⟨_, text'⟩ | ⟨width', value', text', length', number'⟩
    · rw [text, text'] at same
      cases same
    · rw [text, text'] at same
      have digits := (List.cons.inj same).2
      have widths : width = width' := by rw [← length, digits, length']
      have values : value = value' := by rw [← nat_of_padded width value, digits, nat_of_padded]
      rw [number, number', widths, values]

theorem second_text_split (same : secondText t = secondText u) :
    t.shownSecond = u.shownSecond ∧ fractionText t.shownNanos = fractionText u.shownNanos := by
  obtain ⟨c, more, begun, other⟩ := fraction_stops t.shownNanos
  obtain ⟨c', more', begun', other'⟩ := fraction_stops u.shownNanos
  unfold secondText at same
  rw [begun, begun'] at same
  obtain ⟨second, rest⟩ := padded_split other other' same
  obtain ⟨_, tails⟩ := digits_split (padded_digits 2 _) (padded_digits 2 _) (stops_cons other) (stops_cons other') same
  have zoned : fractionText t.shownNanos ++ ['Z'] = fractionText u.shownNanos ++ ['Z'] := by rw [begun, begun', tails]
  exact ⟨second, List.append_cancel_right zoned⟩

theorem leap_iff : t.isLeapSecond = true ↔ 1000000000 ≤ t.nanos := ⟨of_decide_eq_true, decide_eq_true⟩

theorem shown_nanos_below (proper : t.Proper) : t.shownNanos < 1000000000 := by
  have below := proper.nanos
  unfold Timestamp.perSecond at below
  unfold Timestamp.shownNanos Timestamp.perSecond
  by_cases leap : t.isLeapSecond = true
  · rw [if_pos leap]
    omega
  · rw [if_neg leap]
    rw [leap_iff] at leap
    omega

-- Only a leap second is written as the sixtieth of its minute.
theorem shown_leap (proper : t.Proper) : t.isLeapSecond = true ↔ t.shownSecond = 60 := by
  unfold Timestamp.shownSecond Timestamp.secondOfDay Timestamp.perDay
  constructor
  · intro leap
    have ends := proper.leap leap
    rw [if_pos leap]
    omega
  · intro sixtieth
    by_cases leap : t.isLeapSecond = true
    · exact leap
    · rw [if_neg leap] at sixtieth
      omega

-- The text of an instant tells the instant.
theorem text_instant (proper : t.Proper) (proper' : u.Proper) (same : t.text = u.text) : t = u := by
  have minutes := text_minute same
  obtain ⟨_, _, _, last⟩ := text_split same
  obtain ⟨second, fraction⟩ := second_text_split last
  have leaps : t.isLeapSecond = u.isLeapSecond := by
    rw [Bool.eq_iff_iff, shown_leap proper, shown_leap proper', second]
  have shown := fraction_once (shown_nanos_below proper) (shown_nanos_below proper') fraction
  have nanos : t.nanos = u.nanos := by
    unfold Timestamp.shownNanos at shown
    rw [leaps] at shown
    by_cases leap : u.isLeapSecond = true
    · have late := leap_iff.mp (leaps.trans leap)
      have late' := leap_iff.mp leap
      rw [if_pos leap, if_pos leap, Timestamp.perSecond] at shown
      omega
    · rwa [if_neg leap, if_neg leap] at shown
  have seconds : t.seconds = u.seconds := by
    simp only [Timestamp.shownSecond, leaps, Timestamp.secondOfDay, Timestamp.perDay] at second
    omega
  cases t
  cases u
  exact Timestamp.mk.injEq .. ▸ ⟨seconds, nanos⟩

end

end GridLoad.Time
