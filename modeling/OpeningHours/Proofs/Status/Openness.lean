import Mathlib.Order.Bounds.Basic
import OpeningHours.Status.Announcement
import OpeningHours.Status.Order

/-
A status tells the truth about its schedule. It says that the schedule is open exactly when the
schedule covers the present minute, it counts down to the first minute that is no longer covered,
and which of its optional parts are there depends on the schedule and the time alone: an open status
has none, a closed one leaves out the next opening only where the listing says nothing but that it
is closed, and it tells the wait only before a window opens on the same day.
-/

namespace OpeningHours

namespace Schedule

/-- The schedule is open at a civil time. Meals are served at some time of every day, and days
without times count from midnight to midnight. -/
def Covers : Schedule → CivilTime → Prop
  | .roundTheClock, _ => True
  | .closed, _ => False
  | .meals _, _ => True
  | .window hours days, now =>
    now.weekday ∈ days.days ∧ hours.opening ≤ now.minute ∧ now.minute < hours.closing
  | .dayOnly days, now => now.weekday ∈ days.days
  | .unrecognized, _ => False

end Schedule

theorem TimeWindow.contains_iff (window : TimeWindow) (minute : Nat) :
    window.contains minute = true ↔ window.opening ≤ minute ∧ minute < window.closing := by
  simp [TimeWindow.contains]

namespace Schedule

/-! ### Windows -/

variable (hours : TimeWindow) (days : Applicability) (now : CivilTime)

/-- On a day that does not apply the next day that does is announced. -/
theorem windowStatus_of_not_mem (other : now.weekday ∉ days.days) :
    windowStatus hours days now =
      opensOnLaterDay days now.weekday (Phrases.minuteOfDay hours.opening) := by
  rw [windowStatus, if_pos other]

theorem windowStatus_during (applies : now.weekday ∈ days.days)
    (opened : hours.opening ≤ now.minute) (notClosed : now.minute < hours.closing) :
    windowStatus hours days now =
      { isOpen := true, phrase := Phrases.untilClose ((hours.closing : Int) - now.minute) } := by
  have inside := (hours.contains_iff now.minute).mpr ⟨opened, notClosed⟩
  rw [windowStatus, if_neg (not_not_intro applies), if_pos inside]

theorem windowStatus_before (applies : now.weekday ∈ days.days)
    (early : now.minute < hours.opening) :
    windowStatus hours days now =
      { isOpen := false
        phrase := Phrases.untilOpen ((hours.opening : Int) - now.minute)
        untilOpen := some (Phrases.untilOpen ((hours.opening : Int) - now.minute))
        nextOpening := some (Phrases.minuteOfDay hours.opening) } := by
  have outside : ¬ hours.contains now.minute = true := by
    rw [hours.contains_iff]
    omega
  rw [windowStatus, if_neg (not_not_intro applies), if_neg outside, if_pos early]

theorem windowStatus_after (applies : now.weekday ∈ days.days)
    (late : hours.closing ≤ now.minute) :
    windowStatus hours days now =
      if days.kind = .specificDays ∧ 1 < days.daysUntilNext now.weekday then
        opensOnLaterDay days now.weekday (Phrases.minuteOfDay hours.opening)
      else opensTomorrow (Phrases.minuteOfDay hours.opening) := by
  have ordered := hours.opening_lt_closing
  have outside : ¬ hours.contains now.minute = true := by
    rw [hours.contains_iff]
    omega
  rw [windowStatus, if_neg (not_not_intro applies), if_neg outside, if_neg (by omega)]

/-- A time stands in one of four relations to a window on certain days. -/
theorem window_time_cases :
    now.weekday ∉ days.days ∨
      now.weekday ∈ days.days ∧ now.minute < hours.opening ∨
      now.weekday ∈ days.days ∧ hours.opening ≤ now.minute ∧ now.minute < hours.closing ∨
      now.weekday ∈ days.days ∧ hours.closing ≤ now.minute := by
  by_cases applies : now.weekday ∈ days.days
  · by_cases early : now.minute < hours.opening
    · exact Or.inr (Or.inl ⟨applies, early⟩)
    · by_cases notClosed : now.minute < hours.closing
      · exact Or.inr (Or.inr (Or.inl ⟨applies, Nat.not_lt.mp early, notClosed⟩))
      · exact Or.inr (Or.inr (Or.inr ⟨applies, Nat.not_lt.mp notClosed⟩))
  · exact Or.inl applies

theorem windowStatus_isOpen_iff :
    (windowStatus hours days now).isOpen = true ↔ Covers (.window hours days) now := by
  have ordered := hours.opening_lt_closing
  rcases window_time_cases hours days now with
    other | ⟨applies, early⟩ | ⟨applies, opened, notClosed⟩ | ⟨applies, late⟩
  · rw [windowStatus_of_not_mem hours days now other]
    simp [opensOnLaterDay, Covers, other]
  · rw [windowStatus_before hours days now applies early]
    simp [Covers, Nat.not_le.mpr early]
  · rw [windowStatus_during hours days now applies opened notClosed]
    simp [Covers, applies, opened, notClosed]
  · rw [windowStatus_after hours days now applies late]
    have ended : ¬ now.minute < hours.closing := Nat.not_lt.mpr late
    split <;> simp [opensOnLaterDay, opensTomorrow, Covers, ended]

/-! ### All schedules -/

variable (schedule : Schedule) (status : OpenStatus)

theorem statusAt_eq_none_iff : schedule.statusAt now = none ↔ schedule = .unrecognized := by
  cases schedule <;> simp [statusAt]

/-- A status is open exactly when its schedule covers the time. -/
theorem isOpen_iff_covers (current : schedule.statusAt now = some status) :
    status.isOpen = true ↔ schedule.Covers now := by
  cases schedule with
  | window hours days =>
    rw [← Option.some_inj.mp current]
    exact windowStatus_isOpen_iff hours days now
  | dayOnly days =>
    rw [← Option.some_inj.mp current, dayOnlyStatus]
    by_cases applies : now.weekday ∈ days.days <;> simp [Covers, applies]
  | unrecognized => cases current
  | roundTheClock | closed | meals =>
    rw [← Option.some_inj.mp current]
    simp [Covers]

theorem isKnownOpen_iff_covers :
    OpenStatus.isKnownOpen (schedule.statusAt now) = true ↔ schedule.Covers now := by
  cases current : schedule.statusAt now with
  | none =>
    rw [(statusAt_eq_none_iff now schedule).mp current]
    simp [OpenStatus.isKnownOpen, Covers]
  | some status => exact isOpen_iff_covers now schedule status current

/-- An open status speaks of no opening to come. -/
theorem optionalParts_of_isOpen (current : schedule.statusAt now = some status)
    (isOpen : status.isOpen = true) : status.untilOpen = none ∧ status.nextOpening = none := by
  have covers := (isOpen_iff_covers now schedule status current).mp isOpen
  cases schedule with
  | window hours days =>
    obtain ⟨applies, opened, notClosed⟩ := covers
    rw [← Option.some_inj.mp current, windowStatus_during hours days now applies opened notClosed]
    exact ⟨rfl, rfl⟩
  | dayOnly days =>
    have applies : now.weekday ∈ days.days := covers
    rw [← Option.some_inj.mp current, dayOnlyStatus, if_pos applies]
    exact ⟨rfl, rfl⟩
  | closed | unrecognized => exact covers.elim
  | roundTheClock | meals =>
    rw [← Option.some_inj.mp current]
    exact ⟨rfl, rfl⟩

/-- A closed status tells the next opening unless nothing is known but that it is closed. -/
theorem nextOpening_eq_none_iff (current : schedule.statusAt now = some status)
    (closed : status.isOpen = false) : status.nextOpening = none ↔ schedule = .closed := by
  have outside : ¬ schedule.Covers now := by
    rw [← isOpen_iff_covers now schedule status current, closed]
    exact Bool.false_ne_true
  cases schedule with
  | window hours days =>
    rw [← Option.some_inj.mp current]
    rcases window_time_cases hours days now with
      other | ⟨applies, early⟩ | inside | ⟨applies, late⟩
    · simp [windowStatus_of_not_mem hours days now other, opensOnLaterDay]
    · simp [windowStatus_before hours days now applies early]
    · exact absurd inside outside
    · rw [windowStatus_after hours days now applies late]
      split <;> simp [opensOnLaterDay, opensTomorrow]
  | dayOnly days =>
    have other : now.weekday ∉ days.days := outside
    rw [← Option.some_inj.mp current, dayOnlyStatus, if_neg other]
    simp
  | roundTheClock | meals => exact absurd trivial outside
  | unrecognized => cases current
  | closed =>
    rw [← Option.some_inj.mp current]
    simp

/-- The wait is told only before a window opens on the same day, and then it is the phrase. -/
theorem untilOpen_eq_some_iff (current : schedule.statusAt now = some status) (wait : String) :
    status.untilOpen = some wait ↔
      (∃ hours days, schedule = .window hours days ∧ now.weekday ∈ days.days ∧
        now.minute < hours.opening) ∧ status.phrase = wait := by
  cases schedule with
  | window hours days =>
    have ordered := hours.opening_lt_closing
    rw [← Option.some_inj.mp current]
    rcases window_time_cases hours days now with
      other | ⟨applies, early⟩ | ⟨applies, opened, notClosed⟩ | ⟨applies, late⟩
    · simp [windowStatus_of_not_mem hours days now other, opensOnLaterDay, other]
    · simp [windowStatus_before hours days now applies early, applies, early]
    · simp [windowStatus_during hours days now applies opened notClosed, Nat.not_lt.mpr opened]
    · have ended : ¬ now.minute < hours.opening := by omega
      rw [windowStatus_after hours days now applies late]
      split <;> simp [opensOnLaterDay, opensTomorrow, ended]
  | dayOnly days =>
    rw [← Option.some_inj.mp current, dayOnlyStatus]
    split <;> simp
  | unrecognized => cases current
  | roundTheClock | closed | meals =>
    rw [← Option.some_inj.mp current]
    simp

/-! ### The countdown to closing -/

/-- The minutes from a time on after which, on the same day, a schedule is no longer open. -/
def minutesToClosed : Set Nat :=
  {minutes | 1 ≤ minutes ∧ ∃ bound : now.minute + minutes ≤ lastMinuteOfDay,
    OpenStatus.isKnownOpen (schedule.statusAt ⟨now.weekday, now.minute + minutes, bound⟩) = false}

/-- From within a window it is closed first when the closing minute comes. -/
theorem closing_isLeast (covers : Covers (.window hours days) now) :
    IsLeast (minutesToClosed now (.window hours days)) (hours.closing - now.minute) := by
  obtain ⟨applies, opened, notClosed⟩ := covers
  have inDay := hours.closing_le
  constructor
  · refine ⟨by omega, by omega, ?_⟩
    rw [← Bool.not_eq_true, isKnownOpen_iff_covers]
    rintro ⟨_, _, before⟩
    simp only at before
    omega
  · rintro minutes ⟨_, bound, ended⟩
    rw [← Bool.not_eq_true, isKnownOpen_iff_covers] at ended
    by_contra! sooner
    refine ended ⟨applies, ?_, ?_⟩ <;> simp only <;> omega

/-- The phrase of an open window counts down to the first minute at which it is closed. -/
theorem phrase_counts_down (current : (Schedule.window hours days).statusAt now = some status)
    (isOpen : status.isOpen = true) :
    ∃ left : Nat, IsLeast (minutesToClosed now (.window hours days)) left ∧
      status.phrase = Phrases.untilClose left := by
  have covers := (isOpen_iff_covers now _ status current).mp isOpen
  refine ⟨hours.closing - now.minute, closing_isLeast hours days now covers, ?_⟩
  obtain ⟨applies, opened, notClosed⟩ := covers
  rw [← Option.some_inj.mp current, windowStatus_during hours days now applies opened notClosed,
    Int.ofNat_sub (Nat.le_of_lt notClosed)]

end Schedule

/-! ### Hours texts -/

namespace Listing

/-- The status of an hours text and what the text comes to agree, for every text and every time. -/
theorem statusAt_agrees_with_schedule (text : Option String) (now : CivilTime) :
    (statusAt text now = none ↔ Schedule.ofText text = .unrecognized) ∧
    ∀ status, statusAt text now = some status →
      (status.isOpen = true ↔ (Schedule.ofText text).Covers now) ∧
      (∀ hours days, Schedule.ofText text = .window hours days → status.isOpen = true →
        ∃ left : Nat,
          IsLeast {minutes | 1 ≤ minutes ∧ ∃ bound : now.minute + minutes ≤ lastMinuteOfDay,
            OpenStatus.isKnownOpen
              (statusAt text ⟨now.weekday, now.minute + minutes, bound⟩) = false} left ∧
          status.phrase = Phrases.untilClose left) ∧
      (status.isOpen = true → status.untilOpen = none ∧ status.nextOpening = none) ∧
      (status.isOpen = false →
        (status.nextOpening = none ↔ Schedule.ofText text = .closed)) ∧
      ∀ wait, status.untilOpen = some wait ↔
        (∃ hours days, Schedule.ofText text = .window hours days ∧
          now.weekday ∈ days.days ∧ now.minute < hours.opening) ∧ status.phrase = wait := by
  refine ⟨Schedule.statusAt_eq_none_iff now _, fun status current => ⟨?_, ?_, ?_, ?_, ?_⟩⟩
  · exact Schedule.isOpen_iff_covers now _ status current
  · intro hours days comesTo isOpen
    simp only [statusAt, comesTo] at current ⊢
    exact Schedule.phrase_counts_down hours days now status current isOpen
  · exact Schedule.optionalParts_of_isOpen now _ status current
  · exact Schedule.nextOpening_eq_none_iff now _ status current
  · exact Schedule.untilOpen_eq_some_iff now _ status current

end Listing

end OpeningHours
