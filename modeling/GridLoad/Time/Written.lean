import GridLoad.Text.Blank
import GridLoad.Time.Timestamp

/-!
The written form of instants. Writing gives universal time with `Z` and as few of 0, 3, 6 or 9 fraction
digits as hold the value. Reading is more lenient: short fields, blanks around fields, any offset.
-/

set_option autoImplicit false

namespace GridLoad.Time

open GridLoad.Text (trimLeft isBlank)

def padded (width n : Nat) : List Char :=
  let digits := Nat.toDigits 10 n
  List.replicate (width - digits.length) '0' ++ digits

-- Years outside 0 to 9999 bear a sign.
def yearText (year : Int) : List Char :=
  if 0 ≤ year ∧ year ≤ 9999 then padded 4 year.toNat
  else (if year < 0 then '-' else '+') :: padded 4 year.natAbs

def fractionText (nanos : Nat) : List Char :=
  if nanos = 0 then []
  else if nanos % 1000000 = 0 then '.' :: padded 3 (nanos / 1000000)
  else if nanos % 1000 = 0 then '.' :: padded 6 (nanos / 1000)
  else '.' :: padded 9 nanos

def Timestamp.text (t : Timestamp) : String :=
  let date := Date.ofDays t.day
  let second := t.secondOfDay % 60 + (if t.isLeapSecond then 1 else 0)
  let nanos := if t.isLeapSecond then t.nanos - Timestamp.perSecond else t.nanos
  String.ofList (yearText date.year ++ '-' :: padded 2 date.month ++ '-' :: padded 2 date.day ++
    'T' :: padded 2 t.hourOfDay ++ ':' :: padded 2 (t.secondOfDay / 60 % 60) ++
    ':' :: padded 2 second ++ fractionText nanos ++ ['Z'])

abbrev Reader (α : Type) := List Char → Option (α × List Char)

def natOf (digits : List Char) : Nat := digits.foldl (fun n c => 10 * n + (c.toNat - '0'.toNat)) 0

def readDigits (width : Nat) : Reader (List Char) := fun text =>
  let digits := (text.take width).takeWhile Char.isDigit
  if digits.isEmpty then none else some (digits, text.drop digits.length)

def readField (least greatest : Nat) : Reader Nat := fun text => do
  let (digits, rest) ← readDigits 2 (trimLeft text)
  let value := natOf digits
  if least ≤ value ∧ value ≤ greatest then some (value, rest) else none

-- Up to four digits, or a sign and any number of digits.
def readYear : Reader Int := fun text =>
  match trimLeft text with
  | '-' :: rest => do
      let (digits, rest) ← readDigits rest.length rest
      some (-(natOf digits : Int), rest)
  | '+' :: rest => do
      let (digits, rest) ← readDigits rest.length rest
      some ((natOf digits : Int), rest)
  | text => do
      let (digits, rest) ← readDigits 4 text
      some ((natOf digits : Int), rest)

def skip (separator : Char) (text : List Char) : Option (List Char) :=
  match trimLeft text with
  | c :: rest => if c = separator then some rest else none
  | [] => none

-- Digits past nanoseconds are dropped.
def readFraction : Reader Nat := fun text =>
  match text with
  | '.' :: rest => do
      let (digits, rest) ← readDigits 9 rest
      some (natOf digits * Nat.pow 10 (9 - digits.length), rest.dropWhile Char.isDigit)
  | text => some (0, text)

def twoDigits : Reader Nat := fun text =>
  match text with
  | a :: b :: rest => if a.isDigit && b.isDigit then some (natOf [a, b], rest) else none
  | _ => none

-- Offset from universal time in seconds: `Z`, `UTC`, or a sign with hours and minutes.
def readOffset : Reader Int := fun text =>
  match text with
  | 'Z' :: rest => some (0, rest)
  | 'z' :: rest => some (0, rest)
  | sign :: rest =>
      if (text.take 3).map Char.toUpper = ['U', 'T', 'C'] then some (0, text.drop 3)
      else do
        let negative ← if sign = '+' then some false
          else if sign = '-' || sign = '−' then some true else none
        let (hours, rest) ← twoDigits rest
        let (minutes, rest) ← twoDigits (rest.dropWhile fun c => c = ':' || isBlank c)
        if minutes < 60 then
          let seconds : Int := hours * 3600 + minutes * 60
          some (if negative then -seconds else seconds, rest)
        else none
  | [] => none

def readDate : Reader Date := fun text => do
  let (year, text) ← readYear text
  let text ← skip '-' text
  let (month, text) ← readField 1 12 text
  let text ← skip '-' text
  let (day, text) ← readField 1 31 text
  let date : Date := ⟨year, month, day⟩
  if date.valid then some (date, text) else none

-- Second of the day and nanoseconds. Second 60 is a leap second, in whatever minute.
def readTimeOfDay : Reader (Nat × Nat) := fun text => do
  let (hour, text) ← readField 0 23 text
  let text ← skip ':' text
  let (minute, text) ← readField 0 59 text
  let text ← skip ':' text
  let (second, text) ← readField 0 60 text
  let (nanos, text) ← readFraction text
  if second = 60 then some ((hour * 3600 + minute * 60 + 59, nanos + Timestamp.perSecond), text)
  else some ((hour * 3600 + minute * 60 + second, nanos), text)

def isSeparator (c : Char) : Bool := c = 't' || c = 'T' || c = ' '

def Timestamp.ofText? (text : String) : Option Timestamp := do
  let (date, rest) ← readDate text.toList
  let rest ← match rest with
    | c :: rest => if isSeparator c then some rest else none
    | [] => none
  let ((second, nanos), rest) ← readTimeOfDay rest
  let (offset, rest) ← readOffset (trimLeft rest)
  let t : Timestamp := ⟨date.toDays * Timestamp.perDay + second - offset, nanos⟩
  if rest.all isBlank && offset.natAbs < 86400 && t.inRange then some t else none

end GridLoad.Time
