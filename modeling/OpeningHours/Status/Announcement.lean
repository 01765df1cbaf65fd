import OpeningHours.Listing.Reading
import OpeningHours.Status.Basic
import OpeningHours.Status.Phrases

/-
The status of a schedule at a civil time. Within its window a schedule is open and says for how
long; outside it announces when it opens next. After closing time a listing for all days or for
Monday to Friday always announces the next day, Friday evening included; a listing for other days
announces the day on which it applies next.
-/

namespace OpeningHours

namespace Schedule

/-- Closed until a time on the next day. -/
def opensTomorrow (openingTime : String) : OpenStatus where
  isOpen := false
  phrase := "Opens tomorrow at " ++ openingTime
  nextOpening := some ("Tomorrow at " ++ openingTime)

/-- Closed until a time on the next day that applies. -/
def opensOnLaterDay (days : Applicability) (today : Weekday) (openingTime : String) :
    OpenStatus where
  isOpen := false
  phrase := "Opens " ++ Phrases.daysUntil (days.daysUntilNext today) ++ " at " ++ openingTime
  nextOpening := some ((days.nextDay today).name ++ " at " ++ openingTime)

/-- The status of a window that applies on certain days. -/
def windowStatus (window : TimeWindow) (days : Applicability) (now : CivilTime) : OpenStatus :=
  let openingTime := Phrases.minuteOfDay window.opening
  if now.weekday ∉ days.days then opensOnLaterDay days now.weekday openingTime
  else if window.contains now.minute then
    { isOpen := true, phrase := Phrases.untilClose ((window.closing : Int) - now.minute) }
  else if now.minute < window.opening then
    let wait := Phrases.untilOpen ((window.opening : Int) - now.minute)
    { isOpen := false, phrase := wait, untilOpen := some wait, nextOpening := some openingTime }
  else if days.kind = .specificDays ∧ 1 < days.daysUntilNext now.weekday then
    opensOnLaterDay days now.weekday openingTime
  else opensTomorrow openingTime

/-- The status of a listing that names days and no times. -/
def dayOnlyStatus (days : Applicability) (now : CivilTime) : OpenStatus :=
  if now.weekday ∈ days.days then
    { isOpen := true,
      phrase := if days.kind = .weekdays then "Open weekdays" else "Open today" }
  else
    { isOpen := false,
      phrase := "Opens " ++ Phrases.daysUntil (days.daysUntilNext now.weekday),
      nextOpening := some (days.nextDay now.weekday).name }

/-- The status of a schedule at a civil time; a schedule that is not recognized has none. -/
def statusAt (schedule : Schedule) (now : CivilTime) : Option OpenStatus :=
  match schedule with
  | .roundTheClock => some { isOpen := true, phrase := "Open 24/7" }
  | .closed => some { isOpen := false, phrase := "Closed" }
  | .meals _ => some { isOpen := true, phrase := "Open daily - see hours for meal times" }
  | .window hours days => some (windowStatus hours days now)
  | .dayOnly days => some (dayOnlyStatus days now)
  | .unrecognized => none

end Schedule

namespace Listing

/-- The status of an hours text at a civil time. -/
def statusAt (text : Option String) (now : CivilTime) : Option OpenStatus :=
  (Schedule.ofText text).statusAt now

end Listing

end OpeningHours
