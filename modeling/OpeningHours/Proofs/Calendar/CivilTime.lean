import OpeningHours.Calendar.Zone
import OpeningHours.Proofs.Calendar.Date

/-
Instants become civil time by arithmetic on seconds alone. A date and time denotes a second of
universal time by the number of days that its date is away from the first of January 1970, its time
of day and its distance from universal time; moved by the distance that a zone keeps at that second,
the second has a rest within its day, which is the minute, and a number of days, which is the
weekday. The calendar is gone through on the way from the one to the other and leaves no trace, as
dates and their numbers are inverse to each other. So all dates and times that denote the same
second have the same civil time, however far from universal time they are given.
-/

namespace OpeningHours.Calendar

/-- The second falls on a date of the calendar in use, that is of the years 1 to 9999. -/
def InUse (second : Int) : Prop :=
  ∃ date : Date, date.IsDay (second / 86400) ∧ 1 ≤ date.year ∧ date.year ≤ 9999

/-- A date and time denotes a second of universal time, that in which its instant lies. -/
def DateTime.Denotes (moment : DateTime) (second : Int) : Prop :=
  ∃ days, moment.date.IsDay days ∧
    second = ((days * 86400 + moment.hour * 3600 + moment.minute * 60 + moment.second) * 1000000 +
      moment.microsecond - moment.offset.getD 0) / 1000000

theorem inCalendar_of_inUse {second : Int} (inUse : InUse second) :
    inCalendar (DateTime.ofSecond second).date.year = true := by
  obtain ⟨date, counted, first, last⟩ := inUse
  obtain ⟨exist, isNumber⟩ := (Date.isDay_iff _ _).mp counted
  have found : (DateTime.ofSecond second).date = date := by
    rw [← exist.ofDayNumber_dayNumber, isNumber]
    rfl
  rw [found, inCalendar, Bool.and_eq_true, decide_eq_true_eq, decide_eq_true_eq]
  exact ⟨first, last⟩

theorem DateTime.Denotes.second_instant {moment : DateTime} {second : Int}
    (denotes : moment.Denotes second) : moment.instant.second = second := by
  obtain ⟨days, counted, isSecond⟩ := denotes
  obtain ⟨_, isNumber⟩ := (Date.isDay_iff _ _).mp counted
  rw [Instant.second, DateTime.instant, isNumber, DateTime.secondOfDay, secondsPerDay, isSecond]
  congr 3
  omega

/-- The weekday of the day with a number. -/
theorem index_weekday_ofDayNumber (number : Int) :
    ((Date.ofDayNumber number).weekday.index : Int) = (number + 4) % 7 := by
  rw [Date.weekday, Weekday.ofMondayFirst, Weekday.index_ofIndex, Date.mondayNumber,
    Date.dayNumber_ofDayNumber]
  omega

/-- The minute of the day at a second. -/
theorem minute_ofSecond (second : Int) :
    (((DateTime.ofSecond second).hour * 60 + (DateTime.ofSecond second).minute : Nat) : Int) =
      second % 86400 / 60 := by
  have positive : 0 ≤ second % 86400 := Int.emod_nonneg _ (by decide)
  simp only [DateTime.ofSecond, secondsPerDay]
  omega

/-- Where the calendar in use is not left, the civil time at an instant depends on its second
alone. -/
theorem civilTimeAt?_eq {offsetAt : Int → Int} {instant : Instant}
    (universal : InUse instant.second)
    (shown : InUse (instant.second + offsetAt instant.second)) :
    civilTimeAt? offsetAt instant =
      some ((DateTime.ofSecond (instant.second + offsetAt instant.second)).civilTime
        (DateTime.ofSecond_valid _)) := by
  simp only [civilTimeAt?, inCalendar_of_inUse universal, inCalendar_of_inUse shown, Bool.and_self,
    if_true]

theorem DateTime.exists_denotes {moment : DateTime} (exist : moment.date.Exists) :
    ∃ second, moment.Denotes second :=
  ⟨_, _, (Date.isDay_iff _ _).mpr ⟨exist, rfl⟩, rfl⟩

/-- A date and time without a distance from universal time denotes what it denotes at no distance.
-/
theorem DateTime.Denotes.without_offset {moment : DateTime} {second : Int}
    (denotes : moment.Denotes second) (naive : moment.offset = none) :
    { moment with offset := some 0 }.Denotes second := by
  obtain ⟨days, counted, isSecond⟩ := denotes
  rw [naive] at isSecond
  exact ⟨days, counted, isSecond⟩

/-- Every date and time denotes a second of universal time. Where the calendar in use is not left,
its civil time is found from that second, moved by what the zone keeps at it; all dates and times
that denote the second have the same civil time, be they given at whatever distance from universal
time, and one that is given without a distance has the civil time that it has at none. -/
theorem civil_time_of_denoted_second (offsetAt : Int → Int) (moment : DateTime)
    (exist : moment.date.Exists) :
    ∃ second, moment.Denotes second ∧
      (InUse second → InUse (second + offsetAt second) →
        ∃ civilTime : CivilTime,
          civilTimeAt? offsetAt moment.instant = some civilTime ∧
          (civilTime.minute : Int) = (second + offsetAt second) % 86400 / 60 ∧
          (civilTime.weekday.index : Int) = ((second + offsetAt second) / 86400 + 4) % 7 ∧
          (∀ other : DateTime, other.Denotes second →
            civilTimeAt? offsetAt other.instant = some civilTime) ∧
          (moment.offset = none →
            civilTimeAt? offsetAt { moment with offset := some 0 }.instant = some civilTime)) := by
  obtain ⟨second, denotes⟩ := DateTime.exists_denotes exist
  refine ⟨second, denotes, fun universal shown => ?_⟩
  have civil : ∀ other : DateTime, other.Denotes second →
      civilTimeAt? offsetAt other.instant =
        some ((DateTime.ofSecond (second + offsetAt second)).civilTime
          (DateTime.ofSecond_valid _)) := by
    rintro other otherDenotes
    obtain rfl := otherDenotes.second_instant
    exact civilTimeAt?_eq universal shown
  refine ⟨_, civil moment denotes, minute_ofSecond _, index_weekday_ofDayNumber _, civil,
    fun naive => civil _ (denotes.without_offset naive)⟩

/-- Half past four on the afternoon of the last day of 1969 at eight hours west of universal time is
six o'clock on the first morning of 1970 in Kolkata, a Thursday. -/
theorem west_coast_new_year_in_kolkata :
    (Date.mk 1969 12 31).Exists ∧
    DateTime.Denotes ⟨⟨1969, 12, 31⟩, 16, 30, 0, 0, some (-28800000000)⟩ 1800 ∧
    InUse 1800 ∧ InUse (1800 + (Zone.fixed "Asia/Kolkata" 19800).offsetAt 1800) ∧
    ∃ civilTime : CivilTime,
      civilTimeAt? (Zone.fixed "Asia/Kolkata" 19800).offsetAt
        (DateTime.mk ⟨1969, 12, 31⟩ 16 30 0 0 (some (-28800000000))).instant = some civilTime ∧
      civilTime.minute = 360 ∧ civilTime.weekday = .thursday := by
  have exist : (Date.mk 1969 12 31).Exists := ⟨by decide, by decide, by decide, by decide⟩
  have counted : (Date.mk 1969 12 31).IsDay (-1) := (Date.isDay_iff _ _).mpr ⟨exist, rfl⟩
  have universal : InUse 1800 := ⟨⟨1970, 1, 1⟩, .epoch, by decide, by decide⟩
  have shown : InUse (1800 + (Zone.fixed "Asia/Kolkata" 19800).offsetAt 1800) :=
    ⟨⟨1970, 1, 1⟩, .epoch, by decide, by decide⟩
  obtain ⟨second, denotes, civil⟩ := civil_time_of_denoted_second
    (Zone.fixed "Asia/Kolkata" 19800).offsetAt
    ⟨⟨1969, 12, 31⟩, 16, 30, 0, 0, some (-28800000000)⟩ exist
  have isSecond : second = 1800 := denotes.second_instant.symm
  subst isSecond
  obtain ⟨civilTime, isCivil, minute, weekday, _⟩ := civil universal shown
  refine ⟨exist, ⟨-1, counted, by decide⟩, universal, shown, civilTime, isCivil, ?_, ?_⟩
  · exact Int.ofNat_inj.mp minute
  · exact Weekday.index_injective (Int.ofNat_inj.mp weekday)

end OpeningHours.Calendar
