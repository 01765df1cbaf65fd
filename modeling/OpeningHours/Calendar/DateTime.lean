import OpeningHours.Calendar.Date

/-
Dates with a time of day, and the instants that they denote. A date and time may come with its
distance from universal time; without one it is read as universal time. Instants are counted in
microseconds from the first of January 1970 in universal time. The calendar in use ends with the
years one and 9999: an instant outside them has no date.
-/

namespace OpeningHours.Calendar

/-- A date and a time of day, perhaps with the distance from universal time in microseconds,
positive to the east. -/
structure DateTime where
  date : Date
  hour : Nat
  minute : Nat
  second : Nat
  microsecond : Nat
  offset : Option Int
  deriving DecidableEq, Repr

/-- A point in time, in microseconds from the first of January 1970 in universal time. -/
structure Instant where
  microseconds : Int
  deriving DecidableEq, Repr

def secondsPerDay : Int := 86400

namespace Instant

/-- The second that the instant lies in. -/
def second (instant : Instant) : Int :=
  instant.microseconds / 1000000

end Instant

namespace DateTime

/-- The second of the day. -/
def secondOfDay (moment : DateTime) : Int :=
  (moment.hour : Int) * 3600 + moment.minute * 60 + moment.second

/-- The instant that a date and time denotes. -/
def instant (moment : DateTime) : Instant :=
  ⟨(moment.date.dayNumber * secondsPerDay + moment.secondOfDay) * 1000000 + moment.microsecond -
    moment.offset.getD 0⟩

/-- The date and time at which a clock stands that counts seconds from the first of January 1970. -/
def ofSecond (second : Int) : DateTime :=
  let secondOfDay := (second % secondsPerDay).toNat
  { date := Date.ofDayNumber (second / secondsPerDay)
    hour := secondOfDay / 3600
    minute := secondOfDay / 60 % 60
    second := secondOfDay % 60
    microsecond := 0
    offset := none }

end DateTime

/-- The first year of the calendar in use. -/
def firstYear : Int := 1

/-- The last year of the calendar in use. -/
def lastYear : Int := 9999

/-- The year lies within the calendar in use. -/
def inCalendar (year : Int) : Bool :=
  decide (firstYear ≤ year) && decide (year ≤ lastYear)

end OpeningHours.Calendar
