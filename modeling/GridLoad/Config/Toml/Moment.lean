import GridLoad.Config.Toml.Scalar
import GridLoad.Time.Span

/-!
Dates and times of day in TOML documents: a date, a time of day, or both with or without an offset from
universal time. As a setting a moment counts as a text: the date and the time with `T` between them, a
fraction of a second without zeros at its end, `Z` or the offset in hours and minutes.
-/

set_option autoImplicit false

namespace GridLoad.Config.Toml

open GridLoad.Time (Date padded natOf)

structure TimeOfDay where
  hour : Nat
  minute : Nat
  second : Nat
  nanos : Nat
  deriving DecidableEq

inductive Offset where
  | universal
  | minutes (count : Int)
  deriving DecidableEq

inductive Moment where
  | date (date : Date)
  | time (time : TimeOfDay)
  | both (date : Date) (time : TimeOfDay) (offset : Option Offset)
  deriving DecidableEq

def readNumber (width : Nat) : Reader Nat := fun text =>
  let digits := (text.take width).takeWhile Char.isDigit
  if digits.length = width then some (natOf digits, text.drop width) else none

def readWithin (least greatest : Nat) : Reader Nat := fun text => do
  let (n, rest) ← readNumber 2 text
  if least ≤ n ∧ n ≤ greatest then some (n, rest) else none

def readMark (mark : Char) : List Char → Option (List Char)
  | c :: rest => if c = mark then some rest else none
  | [] => none

def readDate : Reader Date := fun text => do
  let (year, text) ← readNumber 4 text
  let text ← readMark '-' text
  let (month, text) ← readWithin 1 12 text
  let text ← readMark '-' text
  let (day, text) ← readWithin 1 31 text
  let date : Date := ⟨year, month, day⟩
  if date.valid then some (date, text) else none

-- A fraction of a second in nanoseconds, where one is written. Digits after the ninth are dropped.
def readFraction : Reader Nat := fun text =>
  match text with
  | '.' :: rest =>
      match rest.takeWhile Char.isDigit with
      | [] => some (0, text)
      | digits =>
          let kept := digits.take 9
          some (natOf kept * Nat.pow 10 (9 - kept.length), rest.dropWhile Char.isDigit)
  | text => some (0, text)

-- A time of day. Second 60 may be in any minute.
def readTimeOfDay : Reader TimeOfDay := fun text => do
  let (hour, text) ← readWithin 0 23 text
  let text ← readMark ':' text
  let (minute, text) ← readWithin 0 59 text
  let text ← readMark ':' text
  let (second, text) ← readWithin 0 60 text
  let (nanos, text) ← readFraction text
  some (⟨hour, minute, second, nanos⟩, text)

def readHoursAndMinutes : Reader Nat := fun text => do
  let (hours, text) ← readWithin 0 23 text
  let text ← readMark ':' text
  let (minutes, text) ← readWithin 0 59 text
  some (hours * 60 + minutes, text)

def readOffset : Reader (Option Offset) := fun text =>
  match text with
  | 'Z' :: rest => some (some .universal, rest)
  | 'z' :: rest => some (some .universal, rest)
  | '+' :: rest => (readHoursAndMinutes rest).map fun r => (some (.minutes r.1), r.2)
  | '-' :: rest => (readHoursAndMinutes rest).map fun r => (some (.minutes (-(r.1 : Int))), r.2)
  | text => some (none, text)

def isDateEnd (c : Char) : Bool := c = 'T' || c = 't' || c = ' '

-- What follows a date: a time of day with an offset, or nothing that belongs to it.
def readAfterDate (date : Date) : Reader Moment := fun text =>
  match text with
  | c :: rest =>
      if isDateEnd c then
        match readTimeOfDay rest with
        | some (time, rest) => (readOffset rest).map fun r => (.both date time r.1, r.2)
        | none => some (.date date, text)
      else some (.date date, text)
  | [] => some (.date date, [])

def readMoment : Reader Moment := fun text =>
  match readDate text with
  | some (date, rest) => readAfterDate date rest
  | none => (readTimeOfDay text).map fun r => (.time r.1, r.2)

namespace Moment

def dateText (d : Date) : List Char :=
  padded 4 d.year.toNat ++ '-' :: padded 2 d.month ++ '-' :: padded 2 d.day

def timeText (t : TimeOfDay) : List Char :=
  padded 2 t.hour ++ ':' :: padded 2 t.minute ++ ':' :: padded 2 t.second ++
    (if t.nanos = 0 then [] else '.' :: GridLoad.Time.Span.fractionDigits 9 t.nanos)

def offsetText : Offset → List Char
  | .universal => ['Z']
  | .minutes count =>
      (if count < 0 then '-' else '+') :: padded 2 (count.natAbs / 60) ++ ':' :: padded 2 (count.natAbs % 60)

def text : Moment → String
  | .date d => String.ofList (dateText d)
  | .time t => String.ofList (timeText t)
  | .both d t offset =>
      String.ofList (dateText d ++ 'T' :: timeText t ++ (offset.map offsetText).getD [])

end Moment

end GridLoad.Config.Toml
