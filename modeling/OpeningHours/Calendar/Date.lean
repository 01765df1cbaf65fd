import OpeningHours.Weekday

/-
Dates of the Gregorian calendar, carried on without end into past and future. Days are numbered from
the first of January 1970; the number of a date is found by counting the days of the years and
months before it, and a date from its number by taking away whole cycles of four hundred years, then
centuries, then spans of four years, then years, then months.
-/

namespace OpeningHours.Calendar

structure Date where
  year : Int
  month : Nat
  day : Nat
  deriving DecidableEq, Repr

/-- Every fourth year is a leap year, but of the full centuries only every fourth. -/
def isLeapYear (year : Int) : Bool :=
  decide (year % 4 = 0) && (decide (year % 100 ≠ 0) || decide (year % 400 = 0))

/-- The lengths of the twelve months. -/
def monthLengths (year : Int) : List Nat :=
  [31, if isLeapYear year then 29 else 28, 31, 30, 31, 30, 31, 31, 30, 31, 30, 31]

/-- The length of a month; zero when there is no such month. -/
def monthLength (year : Int) (month : Nat) : Nat :=
  if month = 0 then 0 else (monthLengths year).getD (month - 1) 0

/-- The days of a year before the given month. -/
def daysBeforeMonth (year : Int) (month : Nat) : Nat :=
  ((monthLengths year).take (month - 1)).foldl (· + ·) 0

/-- The days from the first day of the year one to the first day of a year. -/
def daysBeforeYear (year : Int) : Int :=
  let past := year - 1
  past * 365 + past / 4 - past / 100 + past / 400

/-- The days from the first day of the year one to the first of January 1970. -/
def daysBeforeEpoch : Int := 719162

namespace Date

/-- The days from the first of January 1970 to a date. -/
def dayNumber (date : Date) : Int :=
  daysBeforeYear date.year + daysBeforeMonth date.year date.month + date.day - 1 - daysBeforeEpoch

/-- The year of a day counted from the first day of the year one, and the day within that year
counted from zero. -/
def yearAndDay (days : Int) : Int × Nat :=
  let cycles := days / 146097
  let inCycle := (days % 146097).toNat
  let centuries := min (inCycle / 36524) 3
  let inCentury := inCycle - centuries * 36524
  let spans := inCentury / 1461
  let inSpan := inCentury % 1461
  let years := min (inSpan / 365) 3
  (cycles * 400 + centuries * 100 + spans * 4 + years + 1, inSpan - years * 365)

/-- The month and the day of the month that a day counted from zero falls on, given the lengths of
the months from the one with the given number on. -/
def monthAndDay : List Nat → Nat → Nat → Nat × Nat
  | [], month, day => (month, day + 1)
  | length :: rest, month, day =>
    if day < length then (month, day + 1) else monthAndDay rest (month + 1) (day - length)

/-- The date with a number. -/
def ofDayNumber (number : Int) : Date :=
  let (year, dayOfYear) := yearAndDay (number + daysBeforeEpoch)
  let (month, day) := monthAndDay (monthLengths year) 1 dayOfYear
  ⟨year, month, day⟩

/-- The number of the weekday of a date, counted from Monday. The first of January 1970 was a
Thursday. -/
def mondayNumber (date : Date) : Int :=
  (date.dayNumber + 3) % 7

/-- The weekday of a date. -/
def weekday (date : Date) : Weekday :=
  Weekday.ofMondayFirst date.mondayNumber

end Date

/-- The first weekday of a kind in a month, or a later one: the day of the month on which the
weekday falls in the given week of the month, the fifth week standing for the last one. -/
def nthWeekday (year : Int) (month week : Nat) (weekday : Weekday) : Nat :=
  let first := (Date.mk year month 1).weekday
  let day := 1 + first.daysTo weekday + (week - 1) * 7
  if monthLength year month < day then day - 7 else day

end OpeningHours.Calendar
