import OpeningHours.Calendar.DateTime
import OpeningHours.Schedule

/-
Time zones. A zone keeps a standard distance from universal time, and some zones keep another one
during a summer season that begins and ends on certain Sundays of the year. Which season an instant
belongs to is decided in universal time. An instant is turned into civil time by moving it by the
distance that its zone keeps at that instant.
-/

namespace OpeningHours.Calendar

/-- A yearly change between two distances: the weekday of a week of a month, the fifth week being
the last one, and the second of that day by the clock that is still in force. -/
structure Changeover where
  month : Nat
  week : Nat
  weekday : Weekday
  secondOfDay : Int
  deriving DecidableEq, Repr

/-- The summer season of a zone, with its distance from universal time in seconds. -/
structure Season where
  offset : Int
  begins : Changeover
  ends : Changeover
  deriving DecidableEq, Repr

/-- A zone: its name, its standard distance from universal time in seconds, positive to the east,
and its summer season, if it keeps one. -/
structure Zone where
  name : String
  standard : Int
  summer : Option Season
  deriving DecidableEq, Repr

namespace Changeover

/-- The second of the changeover in a year, by a clock at no distance from universal time. -/
def secondIn (change : Changeover) (year : Int) : Int :=
  let day := nthWeekday year change.month change.week change.weekday
  (Date.mk year change.month day).dayNumber * secondsPerDay + change.secondOfDay

end Changeover

namespace Zone

/-- The zone keeps its summer season at a second of universal time. -/
def isSummer (zone : Zone) (season : Season) (second : Int) : Bool :=
  let year := (Date.ofDayNumber (second / secondsPerDay)).year
  let begins := season.begins.secondIn year - zone.standard
  let ends := season.ends.secondIn year - season.offset
  if begins < ends then decide (begins ≤ second) && decide (second < ends)
  else !(decide (ends ≤ second) && decide (second < begins))

/-- The distance of the zone from universal time, in seconds, at a second of universal time. -/
def offsetAt (zone : Zone) (second : Int) : Int :=
  match zone.summer with
  | some season => if zone.isSummer season second then season.offset else zone.standard
  | none => zone.standard

/-! ### The zones that are known -/

/-- A zone without a summer season. -/
def fixed (name : String) (standard : Int) : Zone :=
  ⟨name, standard, none⟩

/-- A zone with a summer season. -/
def seasonal (name : String) (standard summer : Int) (begins ends : Changeover) : Zone :=
  ⟨name, standard, some ⟨summer, begins, ends⟩⟩

/-- A Sunday of a month at a minute of the day. -/
def sunday (month week : Nat) (minute : Int) : Changeover :=
  ⟨month, week, .sunday, minute * 60⟩

/-- A distance of so many minutes, in seconds. -/
def minutes (count : Int) : Int :=
  count * 60

/-- The zones that are known. -/
def all : List Zone :=
  [seasonal "America/Vancouver" (minutes (-480)) (minutes (-420)) (sunday 3 2 120)
     (sunday 11 1 120),
   seasonal "US/Pacific" (minutes (-480)) (minutes (-420)) (sunday 3 2 120) (sunday 11 1 120),
   seasonal "America/Toronto" (minutes (-300)) (minutes (-240)) (sunday 3 2 120) (sunday 11 1 120),
   seasonal "America/St_Johns" (minutes (-210)) (minutes (-150)) (sunday 3 2 120) (sunday 11 1 120),
   fixed "America/Phoenix" (minutes (-420)),
   seasonal "Europe/London" 0 (minutes 60) (sunday 3 5 60) (sunday 10 5 120),
   seasonal "Europe/Paris" (minutes 60) (minutes 120) (sunday 3 5 120) (sunday 10 5 180),
   fixed "Asia/Tokyo" (minutes 540),
   fixed "Asia/Kolkata" (minutes 330),
   fixed "Asia/Kathmandu" (minutes 345),
   seasonal "Australia/Sydney" (minutes 600) (minutes 660) (sunday 10 1 120) (sunday 4 1 180),
   seasonal "Australia/Lord_Howe" (minutes 630) (minutes 660) (sunday 10 1 120) (sunday 4 1 120),
   seasonal "Pacific/Chatham" (minutes 765) (minutes 825) (sunday 9 5 165) (sunday 4 1 225),
   fixed "Pacific/Kiritimati" (minutes 840),
   fixed "Etc/GMT-14" (minutes 840),
   fixed "Pacific/Pago_Pago" (minutes (-660)),
   fixed "Etc/GMT+8" (minutes (-480)),
   fixed "UTC" 0]

/-- The zone with a name. -/
def named? (name : String) : Option Zone :=
  all.find? fun zone => decide (zone.name = name)

end Zone

/-- What is known of time zones: by the name of a zone, its distance from universal time in seconds
at every second of universal time. -/
abbrev ZoneTable : Type := String → Option (Int → Int)

/-- The table of the zones that are known. -/
def Zone.table : ZoneTable := fun name =>
  (named? name).map offsetAt

/-! ### Civil time -/

/-- A date and time by a clock, as a weekday and a minute of that day. The clock has to show a valid
hour and minute. -/
def DateTime.civilTime (moment : DateTime) (valid : moment.hour < 24 ∧ moment.minute < 60) :
    CivilTime :=
  ⟨moment.date.weekday, moment.hour * 60 + moment.minute, by
    unfold lastMinuteOfDay
    omega⟩

theorem DateTime.ofSecond_valid (second : Int) :
    (DateTime.ofSecond second).hour < 24 ∧ (DateTime.ofSecond second).minute < 60 := by
  have bounds : second % 86400 < 86400 := Int.emod_lt_of_pos _ (by decide)
  have positive : 0 ≤ second % 86400 := Int.emod_nonneg _ (by decide)
  simp only [DateTime.ofSecond, secondsPerDay]
  omega

/-- The civil time at an instant where clocks keep a distance from universal time that may depend on
the instant. There is none when the date falls outside the calendar in use, in universal time or by
that clock. -/
def civilTimeAt? (offsetAt : Int → Int) (instant : Instant) : Option CivilTime :=
  let universal := DateTime.ofSecond instant.second
  let localSecond := instant.second + offsetAt instant.second
  let shown := DateTime.ofSecond localSecond
  if inCalendar universal.date.year && inCalendar shown.date.year then
    some (shown.civilTime (DateTime.ofSecond_valid localSecond))
  else none

end OpeningHours.Calendar
