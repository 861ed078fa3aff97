/-!
Days of the Gregorian calendar, counted from 1970-01-01 in both directions. Years run from March, so that a
leap day is the last of its year, and 400 years hold 146097 days.
-/

set_option autoImplicit false

namespace GridLoad.Time

structure Date where
  year : Int
  month : Nat
  day : Nat
  deriving DecidableEq

def isLeapYear (year : Int) : Bool := year % 4 = 0 && (year % 100 ≠ 0 || year % 400 = 0)

def daysInMonth (year : Int) (month : Nat) : Nat :=
  if month = 2 then (if isLeapYear year then 29 else 28)
  else if month = 4 || month = 6 || month = 9 || month = 11 then 30
  else 31

def leastYear : Int := -262143

def greatestYear : Int := 262142

-- A date that exists, in a year that timestamps can hold.
def Date.valid (d : Date) : Bool :=
  leastYear ≤ d.year && d.year ≤ greatestYear && 1 ≤ d.month && d.month ≤ 12 &&
    1 ≤ d.day && d.day ≤ daysInMonth d.year d.month

def Date.toDays (d : Date) : Int :=
  let year := if d.month ≤ 2 then d.year - 1 else d.year
  let era := year / 400
  let yearOfEra := year % 400
  let monthFromMarch : Int := (d.month + 9) % 12
  let dayOfYear := (153 * monthFromMarch + 2) / 5 + d.day - 1
  era * 146097 + yearOfEra * 365 + yearOfEra / 4 - yearOfEra / 100 + dayOfYear - 719468

def Date.ofDays (days : Int) : Date :=
  let shifted := days + 719468
  let era := shifted / 146097
  let dayOfEra := shifted % 146097
  let yearOfEra := (dayOfEra - dayOfEra / 1460 + dayOfEra / 36524 - dayOfEra / 146096) / 365
  let dayOfYear := dayOfEra - (365 * yearOfEra + yearOfEra / 4 - yearOfEra / 100)
  let monthFromMarch := (5 * dayOfYear + 2) / 153
  let day := dayOfYear - (153 * monthFromMarch + 2) / 5 + 1
  let month := if monthFromMarch < 10 then monthFromMarch + 3 else monthFromMarch - 9
  ⟨yearOfEra + era * 400 + (if month ≤ 2 then 1 else 0), month.toNat, day.toNat⟩

def leastDay : Int := Date.toDays ⟨leastYear, 1, 1⟩

def greatestDay : Int := Date.toDays ⟨greatestYear, 12, 31⟩

-- Days since Monday: 1970-01-01 was a Thursday.
def weekday (days : Int) : Nat := ((days + 3) % 7).toNat

end GridLoad.Time
