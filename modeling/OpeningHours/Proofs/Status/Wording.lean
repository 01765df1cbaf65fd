import OpeningHours.Proofs.Text.OneLine
import OpeningHours.Status.Announcement

/-
What is said of a status stays on one line, whatever the schedule and the time are. Phrases are put
together from fixed words, from numbers and from the names of days.
-/

namespace OpeningHours

open Text

/-! ### Phrases -/

namespace Phrases

theorem uncontrolled_clockTime (hour minute : Int) :
    Uncontrolled (clockTime hour minute).toList := by
  have shownMinute : Uncontrolled (if 0 < minute then
      ":" ++ String.ofList (Numeral.padZeros 2 (Numeral.ofInt minute)) else "").toList := by
    split
    · refine .join (by decide) ?_
      rw [String.toList_ofList, Numeral.padZeros]
      exact (uncontrolled_zeros _).append (uncontrolled_ofInt minute)
    · decide
  refine .join (.join (.join (uncontrolled_toText _) shownMinute) (by decide)) ?_
  split <;> decide

theorem uncontrolled_hoursAndMinutes (hours minutes : Int) :
    Uncontrolled (hoursAndMinutes hours minutes).toList := by
  unfold hoursAndMinutes
  split
  · exact .join (.join (.join (uncontrolled_toText hours) (by decide))
      (uncontrolled_toText minutes)) (by decide)
  · exact .join (uncontrolled_toText hours) (by decide)

theorem uncontrolled_untilOpen (minutes : Int) : Uncontrolled (untilOpen minutes).toList := by
  unfold untilOpen
  dsimp only
  split
  · exact .join (.join (by decide) (uncontrolled_toText _)) (by decide)
  · split
    · decide
    · exact .join (by decide) (uncontrolled_hoursAndMinutes _ _)

theorem uncontrolled_untilClose (minutes : Int) : Uncontrolled (untilClose minutes).toList := by
  unfold untilClose
  dsimp only
  split
  · exact .join (.join (by decide) (uncontrolled_toText _)) (by decide)
  · split
    · decide
    · split
      · exact .join (.join (by decide) (uncontrolled_toText _)) (by decide)
      · exact .join (by decide) (uncontrolled_hoursAndMinutes _ _)

theorem uncontrolled_daysUntil (days : Int) : Uncontrolled (daysUntil days).toList := by
  unfold daysUntil
  split
  · decide
  · exact .join (.join (by decide) (uncontrolled_toText days)) (by decide)

end Phrases

/-! ### Statuses -/

/-- What is said of the status stays on one line. -/
structure OpenStatus.StaysOnLine (status : OpenStatus) : Prop where
  phrase : Uncontrolled status.phrase.toList
  nextOpening : ∀ next ∈ status.nextOpening, Uncontrolled next.toList

namespace Schedule

theorem uncontrolled_dayName (day : Weekday) : Uncontrolled day.name.toList := by
  cases day <;> decide

theorem staysOnLine_opensTomorrow {openingTime : String} (time : Uncontrolled openingTime.toList) :
    (opensTomorrow openingTime).StaysOnLine where
  phrase := .join (by decide) time
  nextOpening next shown := Option.some.inj shown ▸ .join (by decide) time

theorem staysOnLine_opensOnLaterDay (days : Applicability) (today : Weekday) {openingTime : String}
    (time : Uncontrolled openingTime.toList) :
    (opensOnLaterDay days today openingTime).StaysOnLine where
  phrase := .join (.join (.join (by decide) (Phrases.uncontrolled_daysUntil _)) (by decide)) time
  nextOpening next shown :=
    Option.some.inj shown ▸ .join (.join (uncontrolled_dayName _) (by decide)) time

theorem staysOnLine_windowStatus (window : TimeWindow) (days : Applicability) (now : CivilTime) :
    (windowStatus window days now).StaysOnLine := by
  have time : Uncontrolled (Phrases.minuteOfDay window.opening).toList :=
    Phrases.uncontrolled_clockTime _ _
  unfold windowStatus
  dsimp only
  split
  · exact staysOnLine_opensOnLaterDay days now.weekday time
  · split
    · exact ⟨Phrases.uncontrolled_untilClose _, nofun⟩
    · split
      · exact ⟨Phrases.uncontrolled_untilOpen _, fun next shown => Option.some.inj shown ▸ time⟩
      · split
        · exact staysOnLine_opensOnLaterDay days now.weekday time
        · exact staysOnLine_opensTomorrow time

theorem staysOnLine_dayOnlyStatus (days : Applicability) (now : CivilTime) :
    (dayOnlyStatus days now).StaysOnLine := by
  unfold dayOnlyStatus
  split
  · refine ⟨?_, nofun⟩
    dsimp only
    split <;> decide
  · exact ⟨.join (by decide) (Phrases.uncontrolled_daysUntil _),
      fun next shown => Option.some.inj shown ▸ uncontrolled_dayName _⟩

theorem staysOnLine_statusAt {schedule : Schedule} {now : CivilTime} {status : OpenStatus}
    (current : schedule.statusAt now = some status) : status.StaysOnLine := by
  cases schedule with
  | window hours days => exact Option.some.inj current ▸ staysOnLine_windowStatus hours days now
  | dayOnly days => exact Option.some.inj current ▸ staysOnLine_dayOnlyStatus days now
  | roundTheClock | closed | meals => exact Option.some.inj current ▸ ⟨by decide, nofun⟩
  | unrecognized => cases current

end Schedule

end OpeningHours
