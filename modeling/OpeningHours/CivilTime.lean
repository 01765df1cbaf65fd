import OpeningHours.Weekday

/-
Civil time: a weekday and a minute of that day. The minutes of a week form a circle: time that moves
on past midnight comes to the next day, and from the last minute of Saturday to the first of Sunday.
-/

namespace OpeningHours

def minutesPerDay : Nat := 1440

/-- The last minute of a day, counted from midnight. -/
def lastMinuteOfDay : Nat := 1439

/-- A weekday and a minute of that day: where the hands of a civil clock stand in the week. -/
@[ext] structure CivilTime where
  weekday : Weekday
  minute : Nat
  minute_le : minute ≤ lastMinuteOfDay

namespace CivilTime

instance : DecidableEq CivilTime := fun first second =>
  decidable_of_iff (first.weekday = second.weekday ∧ first.minute = second.minute)
    CivilTime.ext_iff.symm

/-- The civil time so many minutes later. -/
def later (now : CivilTime) (minutes : Nat) : CivilTime where
  weekday := now.weekday.later ((now.minute + minutes) / minutesPerDay)
  minute := (now.minute + minutes) % minutesPerDay
  minute_le := Nat.le_of_lt_succ (Nat.mod_lt _ (by decide))

@[simp] theorem weekday_later (now : CivilTime) (minutes : Nat) :
    (now.later minutes).weekday = now.weekday.later ((now.minute + minutes) / minutesPerDay) := rfl

@[simp] theorem minute_later (now : CivilTime) (minutes : Nat) :
    (now.later minutes).minute = (now.minute + minutes) % minutesPerDay := rfl

@[simp] theorem later_zero (now : CivilTime) : now.later 0 = now := by
  have bound := now.minute_le
  unfold lastMinuteOfDay at bound
  apply CivilTime.ext
  · rw [weekday_later, Nat.add_zero, Nat.div_eq_of_lt (by unfold minutesPerDay; omega),
      Weekday.later_zero]
  · rw [minute_later, Nat.add_zero, Nat.mod_eq_of_lt (by unfold minutesPerDay; omega)]

/-- Moving on twice is moving on by both spans together. -/
theorem later_later (now : CivilTime) (first second : Nat) :
    (now.later first).later second = now.later (first + second) := by
  apply CivilTime.ext
  · simp only [weekday_later, minute_later, Weekday.later_later, minutesPerDay]
    congr 1
    omega
  · simp only [minute_later, minutesPerDay]
    omega

end CivilTime

end OpeningHours
