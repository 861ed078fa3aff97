import GridLoad.Time.Calendar

/-!
A day is known by its date.
-/

set_option autoImplicit false

namespace GridLoad.Time

-- The year of a day of an era of 400 years.
def yearOfEra (day : Int) : Int := (day - day / 1460 + day / 36524 - day / 146096) / 365

section

variable {day : Int}

theorem century (from_start : 0 ≤ day) (in_era : day < 146097) :
    day / 36524 = 0 ∨ day / 36524 = 1 ∨ day / 36524 = 2 ∨ day / 36524 = 3 ∨ day / 36524 = 4 := by omega

theorem year_bounds (from_start : 0 ≤ day) (in_era : day < 146097) :
    0 ≤ yearOfEra day ∧ yearOfEra day ≤ 399 ∧ yearOfEra day / 100 = day / 36524 - day / 146096 := by
  unfold yearOfEra
  rcases century from_start in_era with c | c | c | c | c <;> omega

-- Four years and their leap day may end in the year after.
theorem leap_years (from_start : 0 ≤ day) (in_era : day < 146097) :
    yearOfEra day / 4 ≤ day / 1460 ∧ day / 1460 ≤ yearOfEra day / 4 + 1 := by
  unfold yearOfEra
  rcases century from_start in_era with c | c | c | c | c <;> omega

theorem day_of_year_bounds (from_start : 0 ≤ day) (in_era : day < 146097) :
    0 ≤ day - (365 * yearOfEra day + yearOfEra day / 4 - yearOfEra day / 100) ∧
      day - (365 * yearOfEra day + yearOfEra day / 4 - yearOfEra day / 100) ≤ 365 := by
  obtain ⟨_, _, hundreds⟩ := year_bounds from_start in_era
  obtain ⟨least, greatest⟩ := leap_years from_start in_era
  have year : yearOfEra day = (day - day / 1460 + day / 36524 - day / 146096) / 365 := rfl
  omega

end

-- From a day to its date and back.
theorem to_days_of_days (days : Int) : (Date.ofDays days).toDays = days := by
  have from_start : 0 ≤ (days + 719468) % 146097 := Int.emod_nonneg _ (by decide)
  have in_era : (days + 719468) % 146097 < 146097 := Int.emod_lt_of_pos _ (by decide)
  obtain ⟨first, last, _⟩ := year_bounds from_start in_era
  obtain ⟨begins, ends⟩ := day_of_year_bounds from_start in_era
  have split : (days + 719468) / 146097 * 146097 + (days + 719468) % 146097 = days + 719468 := by omega
  have year : ((days + 719468) % 146097 - (days + 719468) % 146097 / 1460 + (days + 719468) % 146097 / 36524 -
      (days + 719468) % 146097 / 146096) / 365 = yearOfEra ((days + 719468) % 146097) := rfl
  simp only [Date.ofDays, year]
  generalize yearOfEra ((days + 719468) % 146097) = y at *
  generalize (days + 719468) % 146097 = d at *
  generalize (days + 719468) / 146097 = era at *
  generalize hundreds : d - (365 * y + y / 4 - y / 100) = doy at *
  have months : 0 ≤ (5 * doy + 2) / 153 ∧ (5 * doy + 2) / 153 ≤ 11 := by omega
  have inside : 0 ≤ doy - (153 * ((5 * doy + 2) / 153) + 2) / 5 := by omega
  generalize (5 * doy + 2) / 153 = m at *
  unfold Date.toDays
  by_cases early : m < 10
  · simp only [early, if_true]
    have late : ¬ m + 3 ≤ 2 := by omega
    have late' : ¬ (m + 3).toNat ≤ 2 := by omega
    have month : (((m + 3).toNat : Int) + 9) % 12 = m := by omega
    have era' : (y + era * 400 + 0) / 400 = era := by omega
    have year' : (y + era * 400 + 0) % 400 = y := by omega
    simp only [late, late', if_false, month, era', year']
    omega
  · simp only [early, if_false]
    have late : m - 9 ≤ 2 := by omega
    have late' : (m - 9).toNat ≤ 2 := by omega
    have month : (((m - 9).toNat : Int) + 9) % 12 = m := by omega
    have era' : (y + era * 400 + 1 - 1) / 400 = era := by omega
    have year' : (y + era * 400 + 1 - 1) % 400 = y := by omega
    simp only [late, late', if_true, month, era', year']
    omega

end GridLoad.Time
