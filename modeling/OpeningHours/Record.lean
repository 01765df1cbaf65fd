import OpeningHours.Json.Basic
import OpeningHours.Schedule
import OpeningHours.Status.Basic

/-
The records in which schedules and statuses are written down. Weekdays stand in them by their
numbers, meals by their names, and a schedule carries its kind as a tag beside its parts.
-/

namespace OpeningHours

/-- A number that is not negative, as a field. -/
def countRecord (count : Nat) : Json :=
  .int count

def TimeWindow.record (window : TimeWindow) : Json :=
  .object
    [("open_minutes", countRecord window.opening), ("close_minutes", countRecord window.closing)]

def Applicability.record (applicability : Applicability) : Json :=
  .object
    [("days", .array (applicability.days.toList.map fun day => countRecord day.index))]

def MealTime.record (time : MealTime) : Json :=
  .object [("meal", .string time.meal.name), ("minute_of_day", countRecord time.minute)]

/-- The parts of a schedule as fields. -/
def Schedule.parts : Schedule → List (String × Json)
  | meals times => [("meals", .array (times.map MealTime.record))]
  | window hours days => [("window", hours.record), ("applicability", days.record)]
  | dayOnly days => [("applicability", days.record)]
  | roundTheClock | closed | unrecognized => []

def Schedule.record (schedule : Schedule) : Json :=
  .object (("kind", .string schedule.kind.name) :: schedule.parts)

def OpenStatus.record (status : OpenStatus) : Json :=
  .object
    [("isOpen", .bool status.isOpen), ("status", .string status.phrase),
     ("timeUntilOpen", Json.ofOption status.untilOpen),
     ("nextOpenTime", Json.ofOption status.nextOpening)]

end OpeningHours
