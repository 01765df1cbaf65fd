import OpeningHours.Record
import OpeningHours.Validation.Records

/-
Checking what was written down. The record of a window, a schedule or a status passes its check, and
the check gives back the very value that was written. Lists are read back item by item, and a set of
days from the numbers of its days.
-/

namespace OpeningHours.Validation

theorem weekday_countRecord (day : Weekday) : weekday (countRecord day.index) = .ok day := by
  have small := day.index_lt_seven
  have low : -wordLimit ≤ (day.index : Int) := by
    unfold wordLimit
    omega
  have high : (day.index : Int) < wordLimit := by
    unfold wordLimit
    omega
  simp [weekday, countRecord, integer, fitsWord, low, high, Weekday.ofNumber?_index]

theorem minuteOfDay_countRecord {minute : Nat} (bound : minute ≤ lastMinuteOfDay) :
    minuteOfDay (countRecord minute) = .ok ⟨minute, bound⟩ := by
  have notNegative : ¬ ((minute : Int) < 0) := by omega
  have notLarge : ¬ ((lastMinuteOfDay : Int) < minute) := by omega
  simp [minuteOfDay, countRecord, integer, bind, Except.bind, notNegative, notLarge]

theorem timeWindow_record (window : TimeWindow) : timeWindow window.record = .ok window := by
  have bound : window.opening ≤ lastMinuteOfDay :=
    Nat.le_trans (Nat.le_of_lt window.opening_lt_closing) window.closing_le
  simp [timeWindow, TimeWindow.record, record, required, Json.fieldOf?,
    minuteOfDay_countRecord bound, minuteOfDay_countRecord window.closing_le, within, both,
    bind, Except.bind, window.opening_lt_closing]

/-- Items that are each read back are read back as a list. -/
theorem eachFrom_map {Item Value : Type} (check : Json → Checked Value) (write : Item → Json)
    (read : Item → Value) (sound : ∀ item, check (write item) = .ok (read item)) (index : Nat)
    (items : List Item) :
    eachFrom check index (items.map write) = .ok (items.map read) := by
  induction items generalizing index with
  | nil => rfl
  | cons item rest inductionHypothesis =>
    simp [eachFrom, sound, inductionHypothesis, within, both, Except.map]

theorem each_map {Item Value : Type} (check : Json → Checked Value) (write : Item → Json)
    (read : Item → Value) (sound : ∀ item, check (write item) = .ok (read item))
    (items : List Item) :
    each check (items.map write) = .ok (items.map read) :=
  eachFrom_map check write read sound 0 items

theorem applicability_record (days : Applicability) : applicability days.record = .ok days := by
  simp [applicability, Applicability.record, record, required, Json.fieldOf?, daySet,
    each_map weekday _ id weekday_countRecord, Except.map, within, bind, Except.bind,
    Applicability.ofDays?_days]

theorem mealTime_record (time : MealTime) : mealTime time.record = .ok time := by
  have read : meal (.string time.meal.name) = .ok time.meal := by
    cases time.meal <;> rfl
  simp [mealTime, MealTime.record, record, required, Json.fieldOf?, read,
    minuteOfDay_countRecord time.minute_le, within, both, Except.map]

/-- A schedule that is written down is read back as it was. -/
theorem schedule_record (value : Schedule) : schedule value.record = .ok value := by
  have tag (kind : ScheduleKind) : ScheduleKind.ofName? kind.name = some kind := by
    cases kind <;> rfl
  cases value with
  | meals times =>
    simp [schedule, Schedule.record, Schedule.parts, Json.fieldOf?, Json.string?, tag,
      Schedule.kind, scheduleOfKind, optional, mealTimes,
      each_map mealTime _ id mealTime_record, within, Except.map]
  | window hours days =>
    simp [schedule, Schedule.record, Schedule.parts, Json.fieldOf?, Json.string?, tag,
      Schedule.kind, scheduleOfKind, required, timeWindow_record, applicability_record, within,
      both, Except.map]
  | dayOnly days =>
    simp [schedule, Schedule.record, Schedule.parts, Json.fieldOf?, Json.string?, tag,
      Schedule.kind, scheduleOfKind, required, applicability_record, within, Except.map]
  | roundTheClock | closed | unrecognized => rfl

/-- A status that is written down is read back as it was. -/
theorem openStatus_record (status : OpenStatus) : openStatus status.record = .ok status := by
  obtain ⟨isOpen, phrase, untilOpen, nextOpening⟩ := status
  cases untilOpen <;> cases nextOpening <;> rfl

end OpeningHours.Validation
