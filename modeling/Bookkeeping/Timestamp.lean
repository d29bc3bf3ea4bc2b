import Bookkeeping.Number.Digits

/-!
# Timestamps

Times of the calendar, counted in microseconds from the first day of the year
one.  The clock of the bank stands still until something is made: each object
takes the current time and moves the clock one second ahead, which the last
second of the calendar does not allow.
-/

namespace Bookkeeping

/-- A time, as microseconds since the beginning of the year one. -/
structure Timestamp where
  microseconds : Nat
deriving DecidableEq

namespace Timestamp

/-- The days before the first day of a month of a year that begins in March. -/
def daysBeforeMonth (month : Nat) : Nat :=
  (153 * month + 2) / 5

/-- The days before the first day of a year that begins in March. -/
def daysBeforeYear (year : Nat) : Nat :=
  365 * year + year / 4 - year / 100 + year / 400

/--
The days from the first day of the year one to a date.  Counting years from
March puts the leap day at the end of a year.
-/
def daysBefore (year month day : Nat) : Nat :=
  let (shiftedYear, shiftedMonth) := if month ≤ 2 then (year - 1, month + 9) else (year, month - 3)
  daysBeforeYear shiftedYear + daysBeforeMonth shiftedMonth + day - 307

/-- The date that lies a number of days after the first day of the year one. -/
def date (days : Nat) : Nat × Nat × Nat :=
  let shifted := days + 306
  let era := shifted / 146097
  let dayOfEra := shifted % 146097
  let yearOfEra := (dayOfEra - dayOfEra / 1460 + dayOfEra / 36524 - dayOfEra / 146096) / 365
  let dayOfYear := dayOfEra - (365 * yearOfEra + yearOfEra / 4 - yearOfEra / 100)
  let shiftedMonth := (5 * dayOfYear + 2) / 153
  let day := dayOfYear - daysBeforeMonth shiftedMonth + 1
  let month := if shiftedMonth < 10 then shiftedMonth + 3 else shiftedMonth - 9
  (yearOfEra + era * 400 + (if month ≤ 2 then 1 else 0), month, day)

def isLeapYear (year : Nat) : Bool :=
  year % 4 == 0 && (year % 100 != 0 || year % 400 == 0)

def daysInMonth (year month : Nat) : Nat :=
  if month = 2 then (if isLeapYear year then 29 else 28)
  else if month = 4 ∨ month = 6 ∨ month = 9 ∨ month = 11 then 30
  else 31

/-- The time at a date and a time of day. -/
def ofCalendar (year month day hour minute second microsecond : Nat) : Timestamp :=
  ⟨(((daysBefore year month day * 24 + hour) * 60 + minute) * 60 + second) * 1000000 + microsecond⟩

/-- The time one second later. -/
def next (time : Timestamp) : Timestamp :=
  ⟨time.microseconds + 1000000⟩

/-- A number with a fixed count of digits. -/
def padded (width number : Nat) : List Char :=
  (Number.lastDigits width number).map Number.digitCharacter

/-- Date and time of day around a divider, with six fractional digits where asked for. -/
def textWith (divider : Char) (fractional : Bool) (time : Timestamp) : String :=
  let seconds := time.microseconds / 1000000
  let (year, month, day) := date (seconds / 86400)
  let fraction := if fractional then '.' :: padded 6 (time.microseconds % 1000000) else []
  String.ofList (padded 4 year ++ '-' :: padded 2 month ++ '-' :: padded 2 day ++
    divider :: padded 2 (seconds / 3600 % 24) ++ ':' :: padded 2 (seconds / 60 % 60) ++
    ':' :: padded 2 (seconds % 60) ++ fraction)

/-- The text of a time; the fraction of a second is left out when it is zero. -/
def text (time : Timestamp) : String :=
  textWith 'T' (time.microseconds % 1000000 != 0) time

/-- The last second of the calendar. -/
def lastSecond : Timestamp :=
  ofCalendar 9999 12 31 23 59 59 0

/-- The distance of a zone, given in microseconds: hours and minutes, and more where needed. -/
def zoneText (distance : Int) : String :=
  let magnitude := distance.natAbs
  let seconds := magnitude / 1000000
  let fraction := if magnitude % 1000000 = 0 then [] else '.' :: padded 6 (magnitude % 1000000)
  let rest := if magnitude % 60000000 = 0 then [] else ':' :: padded 2 (seconds % 60) ++ fraction
  String.ofList ((if distance < 0 then '-' else '+') :: padded 2 (seconds / 3600) ++
    ':' :: padded 2 (seconds / 60 % 60) ++ rest)

/-- The time at which the clock of a new bank stands. -/
def opening : Timestamp :=
  ofCalendar 2024 1 1 0 0 0 0

end Timestamp

end Bookkeeping
