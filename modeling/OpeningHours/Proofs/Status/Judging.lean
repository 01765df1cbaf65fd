import OpeningHours.Status.Announcement

/-
Judging a schedule never goes wrong. The only step that could fail is the search for the next day
that applies: it walks through the seven days after the present one, and a set without any day would
let it come back with nothing. The days of a schedule are never such a set, so judging with the
search as it is walked yields the status of the schedule at every time.
-/

namespace OpeningHours

/-- Why a schedule cannot be judged: a next day is asked for and there is none. -/
inductive JudgingFault where
  | noDays
  deriving DecidableEq, Repr

namespace DaySet

/-- The first of the seven days after the given one that is in the set, by its distance. -/
def daysUntilNext? (days : DaySet) (today : Weekday) : Option Nat :=
  (List.range' 1 7).find? fun count => decide (today.later count ∈ days)

/-- The search for the next day, which fails where there is none. -/
def daysUntilNext (days : DaySet) (today : Weekday) : Except JudgingFault Nat :=
  match days.daysUntilNext? today with
  | some count => .ok count
  | none => .error .noDays

end DaySet

/-- A set with a day in it has a next day. -/
theorem Applicability.daysUntilNext_eq_ok (applicability : Applicability) (today : Weekday) :
    applicability.days.daysUntilNext today = .ok (applicability.daysUntilNext today) := by
  have atLeast := applicability.daysUntilNext_pos today
  have atMost := applicability.daysUntilNext_le_seven today
  have found : applicability.days.daysUntilNext? today =
      some (applicability.daysUntilNext today) := by
    rw [DaySet.daysUntilNext?, List.find?_range'_eq_some, List.mem_range'_1]
    refine ⟨decide_eq_true (applicability.nextDay_mem today), by omega, fun count one before => ?_⟩
    have missed := applicability.not_mem_before_next today count one before
    rw [decide_eq_false missed, Bool.not_false]
  rw [DaySet.daysUntilNext, found]

namespace Schedule

/-! ### Judging step by step -/

/-- Closed until a time on the next day that applies; the day is looked for twice, once for its
distance and once for its name. -/
def judgeLaterDay (days : DaySet) (today : Weekday) (openingTime : String) :
    Except JudgingFault OpenStatus := do
  let count ← days.daysUntilNext today
  let toNamed ← days.daysUntilNext today
  return {
    isOpen := false
    phrase := "Opens " ++ Phrases.daysUntil count ++ " at " ++ openingTime
    nextOpening := some ((today.later toNamed).name ++ " at " ++ openingTime) }

/-- The status of a window on the days of a set. -/
def judgeWindow (window : TimeWindow) (days : Applicability) (now : CivilTime) :
    Except JudgingFault OpenStatus :=
  let openingTime := Phrases.minuteOfDay window.opening
  if now.weekday ∉ days.days then judgeLaterDay days.days now.weekday openingTime
  else if window.contains now.minute then
    .ok { isOpen := true, phrase := Phrases.untilClose ((window.closing : Int) - now.minute) }
  else if now.minute < window.opening then
    let wait := Phrases.untilOpen ((window.opening : Int) - now.minute)
    .ok { isOpen := false, phrase := wait, untilOpen := some wait, nextOpening := some openingTime }
  else if days.kind = .specificDays then do
    let count ← days.days.daysUntilNext now.weekday
    if 1 < count then judgeLaterDay days.days now.weekday openingTime
    else return opensTomorrow openingTime
  else .ok (opensTomorrow openingTime)

/-- The status of days without times. -/
def judgeDayOnly (days : Applicability) (now : CivilTime) : Except JudgingFault OpenStatus :=
  if now.weekday ∈ days.days then
    .ok { isOpen := true,
          phrase := if days.kind = .weekdays then "Open weekdays" else "Open today" }
  else do
    let count ← days.days.daysUntilNext now.weekday
    let toNamed ← days.days.daysUntilNext now.weekday
    return {
      isOpen := false
      phrase := "Opens " ++ Phrases.daysUntil count
      nextOpening := some (now.weekday.later toNamed).name }

/-- The status of a schedule at a civil time, every step of which may fail. -/
def judge (schedule : Schedule) (now : CivilTime) : Except JudgingFault (Option OpenStatus) :=
  match schedule with
  | .window hours days => (judgeWindow hours days now).map some
  | .dayOnly days => (judgeDayOnly days now).map some
  | .roundTheClock => .ok (some { isOpen := true, phrase := "Open 24/7" })
  | .closed => .ok (some { isOpen := false, phrase := "Closed" })
  | .meals _ =>
    .ok (some { isOpen := true, phrase := "Open daily - see hours for meal times" })
  | .unrecognized => .ok none

/-! ### No step fails -/

theorem judgeLaterDay_eq_ok (days : Applicability) (today : Weekday) (openingTime : String) :
    judgeLaterDay days.days today openingTime = .ok (opensOnLaterDay days today openingTime) := by
  rw [judgeLaterDay, days.daysUntilNext_eq_ok today]
  rfl

theorem judgeWindow_eq_ok (window : TimeWindow) (days : Applicability) (now : CivilTime) :
    judgeWindow window days now = .ok (windowStatus window days now) := by
  simp only [judgeWindow, windowStatus, days.daysUntilNext_eq_ok, judgeLaterDay_eq_ok]
  by_cases other : now.weekday ∉ days.days
  · rw [if_pos other, if_pos other]
  · rw [if_neg other, if_neg other]
    split
    · rfl
    · split
      · rfl
      · by_cases specific : days.kind = .specificDays
        · by_cases later : 1 < days.daysUntilNext now.weekday
          · rw [if_pos specific, if_pos ⟨specific, later⟩]
            exact if_pos later
          · rw [if_pos specific, if_neg fun both => later both.2]
            exact if_neg later
        · rw [if_neg specific, if_neg fun both => specific both.1]

theorem judgeDayOnly_eq_ok (days : Applicability) (now : CivilTime) :
    judgeDayOnly days now = .ok (dayOnlyStatus days now) := by
  rw [judgeDayOnly, dayOnlyStatus, days.daysUntilNext_eq_ok]
  split <;> rfl

/-- Every schedule can be judged at every time. -/
theorem judge_eq_ok (schedule : Schedule) (now : CivilTime) :
    schedule.judge now = .ok (schedule.statusAt now) := by
  cases schedule with
  | window hours days =>
    rw [judge, judgeWindow_eq_ok]
    rfl
  | dayOnly days =>
    rw [judge, judgeDayOnly_eq_ok]
    rfl
  | roundTheClock | closed | meals | unrecognized => rfl

end Schedule

end OpeningHours
