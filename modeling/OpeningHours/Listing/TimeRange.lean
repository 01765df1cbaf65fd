import OpeningHours.Listing.Clock

/-
Ranges of clock times in an hours listing, such as `9am-5pm` or `18:00 to 22:30`, and single clock
times that follow the name of a meal. A range that is introduced as a daily one has to close on a
marked clock time; elsewhere every mark may be missing.
-/

namespace OpeningHours.Listing

open Text

/-- Two clock times with a separator between them. -/
structure ClockRange where
  opening : ClockText
  closing : ClockText
  deriving DecidableEq

namespace ClockRange

/-- The part of the day between the two clock times. There is none when one of them is out of range
or the second does not come after the first. -/
def window? (range : ClockRange) : Option TimeWindow := do
  let opening ← range.opening.minuteOfDay?
  let closing ← range.closing.minuteOfDay?
  TimeWindow.ofMinutes? opening closing

end ClockRange

/-- Dashes and the letters of the word that separates two clock times. -/
def isSeparator (char : Char) : Bool :=
  char = '-' || char = '–' || char = 't' || char = 'o'

/-- What stands between two clock times. -/
def separatorScan : Scan Unit :=
  .andThen (.run isBlank) fun _ =>
  .andThen (.run1 isSeparator) fun _ =>
  .run isBlank

/-- A range that closes on a clock time read in the given way. -/
def rangeScanWith (closing : Scan ClockText) : Scan ClockRange :=
  .andThen clockScan fun opening =>
  .andThen separatorScan fun _ =>
  .andThen closing fun closing =>
  .done ⟨opening, closing⟩

/-- A range of clock times. -/
def timeRangeScan : Scan ClockRange :=
  rangeScanWith clockScan

/-- A range of clock times introduced as a daily one. -/
def dailyRangeScan : Scan ClockRange :=
  .andThen (.word "daily".toList) fun _ =>
  .andThen (.run1 isBlank) fun _ =>
  rangeScanWith markedClockScan

/-- A marked clock time after the name of a meal. -/
def mealScan (meal : Meal) : Scan ClockText :=
  .andThen (.word meal.name.toList) fun _ =>
  .andThen (.run1 isBlank) fun _ =>
  markedClockScan

end OpeningHours.Listing
