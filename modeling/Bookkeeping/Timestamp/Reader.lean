import Bookkeeping.Text.Quoted
import Bookkeeping.Timestamp

/-!
# Reading times

A time is written as a date, any one character, and a time of day.  The date is a
day of a month or of a week, with hyphens or without them; the time of day has
hours, then minutes, seconds and a fraction if wanted, with colons or without
them, and may be followed by the distance of its zone.
-/

namespace Bookkeeping.Timestamp

/-- Why a text is not read as a time. -/
inductive Fault where
  /-- The text does not follow the grammar. -/
  | malformed (text : String)
  /-- There is no such year. -/
  | year (year : Nat)
  | month
  | day
  | hour
  | minute
  | second
  /-- The zone is a day or more away. -/
  | zone (distance : Int)
deriving DecidableEq

/-- A distance in time, in the units that it takes. -/
def distanceText (distance : Int) : String :=
  let units := [("days", distance / 86400000000),
    ("seconds", distance % 86400000000 / 1000000), ("microseconds", distance % 1000000)]
  let taken := units.filter fun (_, count) => count ≠ 0
  "datetime.timedelta(" ++
    ", ".intercalate (taken.map fun (name, count) => name ++ "=" ++ Number.integerText count) ++ ")"

def Fault.message : Fault → String
  | .malformed text => "Invalid isoformat string: " ++ Text.quoted text
  | .year number => "year " ++ Number.naturalText number ++ " is out of range"
  | .month => "month must be in 1..12"
  | .day => "day is out of range for month"
  | .hour => "hour must be in 0..23"
  | .minute => "minute must be in 0..59"
  | .second => "second must be in 0..59"
  | .zone distance =>
    "offset must be a timedelta strictly between -timedelta(hours=24) and " ++
      "timedelta(hours=24), not " ++ distanceText distance ++ "."

/-- The number that a fixed count of ASCII digits writes, and what follows. -/
def takeNumber? (width : Nat) (characters : List Char) : Option (Nat × List Char) :=
  let digits := characters.take width
  if digits.length = width ∧ digits.all Char.isDigit then
    some (Number.ofDigits (digits.map fun digit => digit.toNat - 48), characters.drop width)
  else none

/-! ## Dates -/

/-- A hyphen, if there has to be one, and what follows it. -/
def afterHyphen? (isHyphenated : Bool) : List Char → Option (List Char)
  | '-' :: rest => if isHyphenated then some rest else some ('-' :: rest)
  | rest => if isHyphenated then none else some rest

/-- The day of the week of a date: zero for a Monday. -/
def weekday (year month day : Nat) : Nat :=
  daysBefore year month day % 7

/-- Whether a year has fifty-three weeks. -/
def hasLongYear (year : Nat) : Bool :=
  let first := weekday year 1 1
  first == 3 || (first == 2 && isLeapYear year)

/-- The days before the first week of a year; that is the week with the first Thursday. -/
def daysBeforeWeeks (year : Nat) : Nat :=
  let first := daysBefore year 1 1
  let monday := first - first % 7
  if 3 < first % 7 then monday + 7 else monday

/--
The date of a day of a week, if the year has that week.  The weeks of the year
zero begin before the calendar does, and are in no month.
-/
def dateOfWeek? (year week day : Nat) : Option (Nat × Nat × Nat) :=
  if week = 0 ∨ 53 < week ∨ (week = 53 ∧ !hasLongYear year) ∨ day = 0 ∨ 7 < day then none
  else if year = 0 then some (1, 0, 0)
  else some (date (daysBeforeWeeks year + (week - 1) * 7 + (day - 1)))

/-- Reads a date of so many characters: its year, month and day. -/
def readDate? (length : Nat) (characters : List Char) : Option (Nat × Nat × Nat) := do
  let (year, rest) ← takeNumber? 4 characters
  let isHyphenated := rest.head? == some '-'
  let rest := if isHyphenated then rest.drop 1 else rest
  match rest with
  | 'W' :: rest =>
    let (week, rest) ← takeNumber? 2 rest
    if characters.length - rest.length < length then
      let (day, _) ← takeNumber? 1 (← afterHyphen? isHyphenated rest)
      dateOfWeek? year week day
    else dateOfWeek? year week 1
  | rest =>
    let (month, rest) ← takeNumber? 2 rest
    let (day, rest) ← takeNumber? 2 (← afterHyphen? isHyphenated rest)
    if characters.length - rest.length = length then some (year, month, day) else none

/-- How many characters the date has at the beginning of a text. -/
def dateLength (characters : List Char) : Nat :=
  let isDigitAt (place : Nat) : Bool := characters[place]?.any Char.isDigit
  if characters.length = 7 then 7
  else if characters[4]? = some '-' then
    if characters[5]? = some 'W' then
      if characters[8]? = some '-' then (if isDigitAt 10 then 8 else 10) else 8
    else 10
  else if characters[4]? = some 'W' then
    let digits := ((characters.drop 7).takeWhile Char.isDigit).length
    if digits < 2 then 7 + digits else if digits % 2 = 1 then 7 else 8
  else 8

/-! ## Times of day -/

/-- A time of day, and whether nothing follows it. -/
structure ClockReading where
  hour : Nat
  minute : Nat
  second : Nat
  microsecond : Nat
  isComplete : Bool

/-- The reading of hours, minutes and seconds, of which the last may be missing. -/
def ClockReading.ofFields (fields : List Nat) (microsecond : Nat) (isComplete : Bool) :
    ClockReading where
  hour := fields[0]?.getD 0
  minute := fields[1]?.getD 0
  second := fields[2]?.getD 0
  microsecond := microsecond
  isComplete := isComplete

/-- Reads the fraction of a second; what goes beyond microseconds is dropped. -/
def readFraction? (fields : List Nat) (length : Nat) (characters : List Char) :
    Option ClockReading := do
  let width := min length 6
  let (fraction, rest) ← takeNumber? width characters
  return .ofFields fields (fraction * Nat.pow 10 (6 - width)) (rest.dropWhile Char.isDigit).isEmpty

/--
Reads more fields of two digits.  There are `length` bytes in front of a zone,
and the first field has told whether colons stand between fields.
-/
def readFields? : Nat → Option Bool → List Nat → Nat → List Char → Option ClockReading
  | 0, _, fields, length, characters => readFraction? fields length characters
  | more + 1, hasColons, fields, length, characters =>
    match takeNumber? 2 characters with
    | none => none
    | some (field, rest) =>
      let fields := fields ++ [field]
      let hasColons := hasColons.getD (rest.head? == some ':')
      if length ≤ 3 then some (.ofFields fields 0 rest.isEmpty)
      else
        match rest with
        | ':' :: behind =>
          if hasColons then readFields? more (some hasColons) fields (length - 3) behind
          else readFields? more (some hasColons) fields (length - 2) rest
        | '.' :: behind | ',' :: behind => readFraction? fields (length - 3) behind
        | _ =>
          if hasColons then none
          else readFields? more (some hasColons) fields (length - 2) rest

/-- The bytes that characters take. -/
def byteLength (characters : List Char) : Nat :=
  characters.foldr (fun character length => character.utf8Size + length) 0

/-- Whether a character begins the distance of a zone. -/
def beginsZone (character : Char) : Bool :=
  character == '+' || character == '-' || character == 'Z'

/-- The distance of a zone in microseconds. -/
def readZone? : List Char → Option Int
  | ['Z'] => some 0
  | sign :: rest =>
    if sign = 'Z' then none
    else
      match readFields? 3 none [] (byteLength rest) rest with
      | none => none
      | some reading =>
        let seconds := (reading.hour * 60 + reading.minute) * 60 + reading.second
        let distance : Int :=
          if seconds = 0 then 0 else seconds * 1000000 + reading.microsecond
        if reading.isComplete then some (if sign = '-' then -distance else distance) else none
  | [] => none

/-- Reads a time of day and the distance of its zone, if there is one. -/
def readTime? (characters : List Char) : Option (ClockReading × Option Int) := do
  let inFront := characters.takeWhile (!beginsZone ·)
  let reading ← readFields? 3 none [] (byteLength inFront) characters
  match characters.drop inFront.length with
  | [] => if reading.isComplete then some (reading, none) else none
  | zone => do return (reading, some (← readZone? zone))

/-! ## Whole times -/

/-- What a time is read as before its bounds are checked. -/
structure Reading where
  year : Nat
  month : Nat
  day : Nat
  clock : ClockReading
  zone : Option Int

/-- Reads a date, and a time of day after a divider if there is one. -/
def reading? (characters : List Char) : Option Reading := do
  let length := dateLength characters
  let (year, month, day) ← readDate? length characters
  match characters.drop length with
  | [] => some ⟨year, month, day, .ofFields [] 0 true, none⟩
  | _ :: rest =>
    let (clock, zone) ← readTime? rest
    some ⟨year, month, day, clock, zone⟩

def microsecondsOfDay : Nat := 86400000000

/-- The first bound that a reading exceeds. -/
def Reading.fault? (reading : Reading) : Option Fault :=
  if reading.zone.any fun zone => microsecondsOfDay ≤ zone.natAbs then
    some (.zone (reading.zone.getD 0))
  else if reading.year = 0 ∨ 9999 < reading.year then some (.year reading.year)
  else if reading.month = 0 ∨ 12 < reading.month then some .month
  else if reading.day = 0 ∨ daysInMonth reading.year reading.month < reading.day then some .day
  else if 23 < reading.clock.hour then some .hour
  else if 59 < reading.clock.minute then some .minute
  else if 59 < reading.clock.second then some .second
  else none

/-- The time that a text writes, and the distance of its zone if it has one. -/
def ofText (text : String) : Except Fault (Timestamp × Option Int) :=
  match reading? (Text.wholeCharacters text) with
  | none => .error (.malformed text)
  | some reading =>
    match reading.fault? with
    | some fault => .error fault
    | none =>
      let clock := reading.clock
      .ok (ofCalendar reading.year reading.month reading.day clock.hour clock.minute
        clock.second clock.microsecond, reading.zone)

end Bookkeeping.Timestamp
