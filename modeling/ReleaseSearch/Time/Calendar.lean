import ReleaseSearch.Decimal.Shortest

/-!
# Dates and moments

A `Date` of the Gregorian calendar, and a `Moment`: a date with a time of day and, unless it is a
local one, its distance from universal time.  Days are counted from the first of January of
year 1, which is day 1.
-/

namespace ReleaseSearch.Time

open ReleaseSearch.Decimal

structure Date where
  year : Nat
  month : Nat
  day : Nat
  deriving DecidableEq, Repr

def isLeap (year : Nat) : Bool := year % 4 == 0 && (year % 100 != 0 || year % 400 == 0)

def daysInMonth (year month : Nat) : Nat :=
  if month = 2 then (if isLeap year then 29 else 28)
  else if month = 4 || month = 6 || month = 9 || month = 11 then 30
  else 31

def lastYear : Nat := 9999

def Date.of? (year month day : Nat) : Option Date :=
  if 1 ≤ year ∧ year ≤ lastYear ∧ 1 ≤ month ∧ month ≤ 12 ∧ 1 ≤ day ∧
      day ≤ daysInMonth year month then
    some ⟨year, month, day⟩
  else none

/-- The number of days before the first of January of a year. -/
def daysBeforeYear (year : Nat) : Int :=
  let y : Int := (year : Int) - 1
  y * 365 + Int.fdiv y 4 - Int.fdiv y 100 + Int.fdiv y 400

def daysBeforeMonth (year month : Nat) : Nat :=
  ((List.range (month - 1)).map fun m => daysInMonth year (m + 1)).foldr (· + ·) 0

def Date.number (d : Date) : Int :=
  daysBeforeYear d.year + daysBeforeMonth d.year d.month + d.day

/-- The month and day of a day of the year, counted from zero, from a given month on. -/
def monthDay (year : Nat) : Nat → Nat → Nat → Nat × Nat
  | 0, month, rest => (month, rest + 1)
  | left + 1, month, rest =>
    if rest < daysInMonth year month then (month, rest + 1)
    else monthDay year left (month + 1) (rest - daysInMonth year month)

/-- The date with a number, if it lies in the years 1 to 9999. -/
def Date.ofNumber? (n : Int) : Option Date :=
  if n < 1 ∨ n > 3652059 then none
  else
    let guess := (n.toNat - 1) * 400 / 146097 + 1
    let year :=
      if daysBeforeYear (guess + 1) < n then guess + 1
      else if daysBeforeYear guess ≥ n then guess - 1
      else guess
    let (month, day) := monthDay year 11 1 (n - daysBeforeYear year - 1).toNat
    some ⟨year, month, day⟩

/-- The number of the Monday of the first week of a year: the week that has its fourth day. -/
def firstMonday (year : Nat) : Int :=
  let start := daysBeforeYear year + 1
  let weekday := Int.fmod (start + 6) 7
  if weekday > 3 then start - weekday + 7 else start - weekday

/-- The date with a week and a day of the week, Monday being 1, if the year has that week. -/
def Date.ofWeek? (year week day : Nat) : Option Date :=
  if year < 1 ∨ year > lastYear then none
  else
    let firstWeekday := Int.fmod (daysBeforeYear year + 7) 7
    let isLong := firstWeekday == 3 || (firstWeekday == 2 && isLeap year)
    if week < 1 ∨ week > 53 ∨ (week = 53 ∧ !isLong) ∨ day < 1 ∨ day > 7 then none
    else Date.ofNumber? (firstMonday year + ((week : Int) - 1) * 7 + day - 1)

/-- A date with a time of day.  The offset is in microseconds east of universal time. -/
structure Moment where
  date : Date
  hour : Nat
  minute : Nat
  second : Nat
  microsecond : Nat
  offset : Option Int
  deriving DecidableEq, Repr

def dayLength : Int := 86400000000

/-- The moment with the given parts, if the time of day exists and the offset is under a day. -/
def Moment.of? (date : Date) (hour minute second microsecond : Nat) (offset : Option Int) :
    Option Moment :=
  if hour < 24 ∧ minute < 60 ∧ second < 60 ∧ microsecond < 1000000 ∧
      offset.all (fun o => -dayLength < o && o < dayLength) then
    some ⟨date, hour, minute, second, microsecond, offset⟩
  else none

def Date.midnight (d : Date) : Moment := ⟨d, 0, 0, 0, 0, none⟩

/-- The moment with an offset of zero if it was local. -/
def Moment.orUniversal (m : Moment) : Moment := { m with offset := some (m.offset.getD 0) }

def epochNumber : Int := 719163

/-- The microseconds since the start of 1970, in the moment's own time. -/
def Moment.microsecondsLocal (m : Moment) : Int :=
  ((m.date.number - epochNumber) * 86400 + m.hour * 3600 + m.minute * 60 + m.second) * 1000000 +
    m.microsecond

/-- The moment a number of microseconds after the start of 1970, with an offset of zero. -/
def Moment.ofMicroseconds? (n : Int) : Option Moment := do
  let date ← Date.ofNumber? (Int.fdiv n dayLength + epochNumber)
  let rest := (Int.fmod n dayLength).toNat
  let seconds := rest / 1000000
  return ⟨date, seconds / 3600, seconds / 60 % 60, seconds % 60, rest % 1000000, some 0⟩

/-! ## Texts -/

def padded (width n : Nat) : String :=
  let ds := natDigits n
  String.ofList (List.replicate (width - ds.length) '0' ++ ds)

def Date.text (d : Date) : String :=
  padded 4 d.year ++ "-" ++ padded 2 d.month ++ "-" ++ padded 2 d.day

/-- The microseconds after a point, unless there are none. -/
def fraction (microsecond : Nat) : String :=
  if microsecond = 0 then "" else "." ++ padded 6 microsecond

/-- An offset: a sign, hours and minutes, and seconds if there are any. -/
def offsetText (offset : Int) : String :=
  let total := offset.natAbs
  let seconds := total / 1000000
  let rest :=
    if seconds % 60 = 0 ∧ total % 1000000 = 0 then ""
    else ":" ++ padded 2 (seconds % 60) ++ fraction (total % 1000000)
  (if offset < 0 then "-" else "+") ++ padded 2 (seconds / 3600) ++ ":" ++
    padded 2 (seconds / 60 % 60) ++ rest

/-- The text of a moment, with `separator` between the date and the time. -/
def Moment.textWith (separator : String) (m : Moment) : String :=
  m.date.text ++ separator ++ padded 2 m.hour ++ ":" ++ padded 2 m.minute ++ ":" ++
    padded 2 m.second ++ fraction m.microsecond ++ (m.offset.map offsetText).getD ""

def Moment.text (m : Moment) : String := m.textWith "T"

end ReleaseSearch.Time
