import OpeningHours.Proofs.Listing.ClockTime

/-
Clock times whose hour and minute are given as numerals. A numeral may denote any whole number, so
more can be given here than a clock shows. An hour is held to both bounds of its clock: with a mark
because both are asked for, and without one because no minute makes up for an hour below zero. Of a
minute only the upper bound is asked for. What stands on a clock is therefore read as the minute of
the day that it shows; apart from that a minute below zero is taken as well, where counting it back
from an hour on the clock does not lead out of the day. All else names no minute of the day.
-/

namespace OpeningHours.Listing

open Text

/-! ### Hours and minutes of any size -/

/-- The minute is below zero, and counting it back from a full hour on a clock does not lead out of
the day. -/
def CountsBack (hour minute : Int) (mark : Option ClockMark) : Prop :=
  minute < 0 ∧ OnClock hour 0 mark ∧ 0 ≤ dayMinute hour minute mark

instance (hour minute : Int) (mark : Option ClockMark) : Decidable (CountsBack hour minute mark) :=
  inferInstanceAs (Decidable (_ ∧ _ ∧ _))

theorem CountsBack.not_onClock {hour minute : Int} {mark : Option ClockMark}
    (back : CountsBack hour minute mark) : ¬ OnClock hour minute mark := by
  intro on
  have negative := back.1
  have natural := on.1.1
  omega

/-- A minute of the day is named by what stands on a clock and by what counts back. -/
theorem minuteOfDay?_eq_some_iff_onClock_or_countsBack (hour minute : Int)
    (mark : Option ClockMark) (total : Nat) :
    minuteOfDay? hour minute mark = some total ↔
      (OnClock hour minute mark ∨ CountsBack hour minute mark) ∧
        (total : Int) = dayMinute hour minute mark := by
  rw [minuteOfDay?_eq_some_iff_dayMinute, onClock_iff hour minute, CountsBack]
  constructor
  · rintro ⟨small, full, equal⟩
    refine ⟨?_, equal⟩
    by_cases negative : minute < 0
    · exact Or.inr ⟨negative, full, by omega⟩
    · exact Or.inl ⟨⟨by omega, small⟩, full⟩
  · rintro ⟨⟨⟨_, small⟩, full⟩ | ⟨negative, full, _⟩, equal⟩
    · exact ⟨small, full, equal⟩
    · exact ⟨by omega, full, equal⟩

/-! ### The minute that a clock shows -/

/-- The minute of the day of an hour and a minute, if they stand on a clock. -/
def clockMinute? (hour minute : Int) (mark : Option ClockMark) : Option Nat :=
  if OnClock hour minute mark then some (dayMinute hour minute mark).toNat else none

theorem clockMinute?_eq_some_iff (hour minute : Int) (mark : Option ClockMark) (total : Nat) :
    clockMinute? hour minute mark = some total ↔
      OnClock hour minute mark ∧ (total : Int) = dayMinute hour minute mark := by
  rw [clockMinute?]
  by_cases on : OnClock hour minute mark
  · have natural := on.dayMinute_bounds.1
    rw [if_pos on, and_iff_right on, Option.some.injEq]
    omega
  · rw [if_neg on]
    simp only [on, false_and, reduceCtorEq]

/-- What is named is what the clock shows, unless the minute counts back. -/
theorem minuteOfDay?_eq_clockMinute?_iff (hour minute : Int) (mark : Option ClockMark) :
    minuteOfDay? hour minute mark = clockMinute? hour minute mark ↔
      ¬ CountsBack hour minute mark := by
  constructor
  · intro same back
    have natural := back.2.2
    have named := (minuteOfDay?_eq_some_iff_onClock_or_countsBack hour minute mark
      (dayMinute hour minute mark).toNat).mpr ⟨Or.inr back, Int.toNat_of_nonneg natural⟩
    rw [same, clockMinute?_eq_some_iff] at named
    exact back.not_onClock named.1
  · intro notBack
    refine Option.ext fun total => ?_
    rw [minuteOfDay?_eq_some_iff_onClock_or_countsBack, clockMinute?_eq_some_iff,
      or_iff_left notBack]

/-! ### Numerals -/

/-- The number that a minute given as a numeral denotes. A missing or empty minute is zero. -/
inductive GivesMinute : Option (List Char) → Int → Prop
  | missing : GivesMinute none 0
  | empty : GivesMinute (some []) 0
  | numeral {text : List Char} {number : Int} (read : Numeral.read text = .ok number) :
    GivesMinute (some text) number

theorem readMinuteOfDay_eq {hourText : List Char} {minuteText : Option (List Char)}
    {hour minute : Int} (givesHour : Numeral.read hourText = .ok hour)
    (givesMinute : GivesMinute minuteText minute) (mark : Option ClockMark) :
    readMinuteOfDay hourText minuteText mark = .ok (minuteOfDay? hour minute mark) := by
  rw [readMinuteOfDay, givesHour]
  cases givesMinute with
  | missing => rfl
  | empty => rfl
  | @numeral text number read =>
    cases text with
    | nil => cases read
    | cons char rest =>
      simp only [read]
      rfl

/-- An hour and a minute given as numerals are read as what the clock shows, and as nothing where no
clock shows them, unless the minute counts back. In every case a minute of the day is read exactly
when they stand on a clock or count back, and it is the minute that they make together. -/
theorem readMinuteOfDay_agrees_iff {hourText : List Char} {minuteText : Option (List Char)}
    {hour minute : Int} (givesHour : Numeral.read hourText = .ok hour)
    (givesMinute : GivesMinute minuteText minute) (mark : Option ClockMark) :
    (readMinuteOfDay hourText minuteText mark = .ok (clockMinute? hour minute mark) ↔
        ¬ CountsBack hour minute mark) ∧
      ∃ named, readMinuteOfDay hourText minuteText mark = .ok named ∧
        ∀ total, named = some total ↔
          (OnClock hour minute mark ∨ CountsBack hour minute mark) ∧
            (total : Int) = dayMinute hour minute mark ∧ total ≤ lastMinuteOfDay := by
  have reads := readMinuteOfDay_eq givesHour givesMinute mark
  refine ⟨?_, _, reads, fun total => ?_⟩
  · rw [reads, Except.ok.injEq, minuteOfDay?_eq_clockMinute?_iff]
  · have bound (named : minuteOfDay? hour minute mark = some total) : total ≤ lastMinuteOfDay :=
      ((minuteOfDay?_eq_some_iff _ _ _ _).mp named).2.1
    rw [← and_assoc, ← minuteOfDay?_eq_some_iff_onClock_or_countsBack]
    exact (and_iff_left_of_imp bound).symm

/-- Half past nine in the evening, in the digits of another script and with an underscore. -/
theorem evening_in_other_digits_is_read :
    Numeral.read "٠٩".toList = .ok 9 ∧ Numeral.read "٣_٠".toList = .ok 30 ∧
      readMinuteOfDay "٠٩".toList (some "٣_٠".toList) (some .pm) = .ok (some 1290) := by
  have hour : Numeral.read "٠٩".toList = .ok 9 := by decide
  have minute : Numeral.read "٣_٠".toList = .ok 30 := by decide
  have shown : clockMinute? 9 30 (some .pm) = some 1290 := by decide
  have agrees := (readMinuteOfDay_agrees_iff hour (.numeral minute) (some .pm)).1.mpr (by decide)
  exact ⟨hour, minute, agrees.trans (congrArg Except.ok shown)⟩

/-- Thirty minutes before one o'clock are read as half past twelve, which no clock shows so. -/
theorem minute_below_zero_is_read :
    Numeral.read ['1'] = .ok 1 ∧ Numeral.read ['-', '3', '0'] = .ok (-30) ∧
      ¬ OnClock 1 (-30) none ∧ clockMinute? 1 (-30) none = none ∧
      readMinuteOfDay ['1'] (some ['-', '3', '0']) none = .ok (some 30) := by
  decide

end OpeningHours.Listing
