import OpeningHours.Proofs.Listing.ClockTime
import OpeningHours.Proofs.Text.Numerals
import OpeningHours.Status.Phrases

/-
A printed time of day is, in lower case, a written clock time with a mark. Its minute stands after a
colon if it stands there at all, so it is never compact, and it names the minute of the day that was
printed.
-/

namespace OpeningHours.Listing

open Text

/-! ### What is printed -/

/-- The hour as the twelve-hour clock shows it. -/
def displayHour (hour : Nat) : Nat :=
  if hour % 12 = 0 then 12 else hour % 12

theorem displayHour_lt (hour : Nat) : displayHour hour < 100 := by
  unfold displayHour
  split <;> omega

/-- Minutes as they are shown after the hour, if they are not zero. -/
def displayMinute? (minute : Nat) : Option (List Char) :=
  if 0 < minute then some (Numeral.padZeros 2 (Numeral.ofNat minute)) else none

theorem displayMinute?_length {minute : Nat} (small : minute < 100) :
    ∀ digits ∈ displayMinute? minute, digits.length = 2 := by
  intro digits shown
  unfold displayMinute? at shown
  split at shown
  · obtain rfl := Option.some.inj shown
    refine Numeral.length_padZeros ?_
    rcases Numeral.length_ofNat_of_lt_hundred small with one | two <;> omega
  · cases shown

theorem displayMinute?_all (minute : Nat) :
    ∀ digits ∈ displayMinute? minute, digits.all Char.isDigit = true := by
  intro digits shown
  unfold displayMinute? at shown
  split at shown
  · obtain rfl := Option.some.inj shown
    exact Numeral.padZeros_all_isDigit 2 (Numeral.ofNat_all_isDigit minute)
  · cases shown

theorem value_displayMinute? (minute : Nat) :
    Numeral.value ((displayMinute? minute).getD []) = minute := by
  unfold displayMinute?
  split
  · rw [Option.getD_some, Numeral.value_padZeros, Numeral.value_ofNat]
  · next zero => exact (Nat.eq_zero_of_not_pos zero).symm

theorem clockTime_toList (hour minute : Nat) :
    (Phrases.clockTime hour minute).toList =
      Numeral.ofNat (displayHour hour) ++
        ((if 0 < minute then [':'] else []) ++ (displayMinute? minute).getD []) ++
          ' ' :: (if 12 ≤ hour then ['P', 'M'] else ['A', 'M']) := by
  have shownHour :
      (if (hour : Int) % 12 = 0 then 12 else (hour : Int) % 12) = displayHour hour := by
    unfold displayHour
    by_cases whole : hour % 12 = 0
    · rw [if_pos whole, if_pos (by omega)]
      rfl
    · rw [if_neg whole, if_neg (by omega)]
      rfl
  have half : (if 12 ≤ (hour : Int) then "PM" else "AM").toList =
      if 12 ≤ hour then ['P', 'M'] else ['A', 'M'] := by
    by_cases afternoon : 12 ≤ hour
    · rw [if_pos afternoon, if_pos (by omega)]
      rfl
    · rw [if_neg afternoon, if_neg (by omega)]
      rfl
  have shownMinute : (if 0 < (minute : Int) then
        ":" ++ String.ofList (Numeral.padZeros 2 (Numeral.ofInt minute)) else "").toList =
      (if 0 < minute then [':'] else []) ++ (displayMinute? minute).getD [] := by
    unfold displayMinute?
    by_cases some : 0 < minute
    · rw [if_pos (Int.natCast_pos.mpr some), if_pos some, if_pos some, Numeral.ofInt_natCast,
        String.toList_append, String.toList_ofList, String.toList_ofList]
      rfl
    · rw [if_neg (by omega), if_neg some, if_neg some]
      rfl
  simp only [Phrases.clockTime, shownHour, String.toList_append, half, shownMinute]
  rw [Numeral.toText, Numeral.ofInt_natCast, String.toList_ofList]
  exact List.append_assoc _ [' '] _

theorem minuteOfDay_toList (minute : Nat) :
    (Phrases.minuteOfDay minute).toList =
      Numeral.ofNat (displayHour (minute / 60)) ++
        ((if 0 < minute % 60 then [':'] else []) ++ (displayMinute? (minute % 60)).getD []) ++
          ' ' :: (if 12 ≤ minute / 60 then ['P', 'M'] else ['A', 'M']) := by
  have hour : (minute : Int) / 60 = (minute / 60 : Nat) := by omega
  have rest : (minute : Int) % 60 = (minute % 60 : Nat) := by omega
  rw [Phrases.minuteOfDay, hour, rest, clockTime_toList]

theorem displayMinute?_getD_all (minute : Nat) :
    ((displayMinute? minute).getD []).all Char.isDigit = true := by
  cases display : displayMinute? minute with
  | none => rfl
  | some digits => exact displayMinute?_all minute digits display

/-- A printed minute of the day is an ASCII text. -/
theorem minuteOfDay_ascii (minute : Nat) :
    (Phrases.minuteOfDay minute).toList.all (fun char => char.toNat < 0x80) = true := by
  have digits (text : List Char) (all : text.all Char.isDigit = true) :
      text.all (fun char => char.toNat < 0x80) = true := by
    refine List.all_eq_true.mpr fun char member => ?_
    have bounds := Numeral.toNat_of_isDigit (List.all_eq_true.mp all char member)
    exact decide_eq_true (by omega)
  have colon : (if 0 < minute % 60 then [':'] else []).all (fun char => char.toNat < 0x80) =
      true := by
    split <;> decide
  have half : (if 12 ≤ minute / 60 then ['P', 'M'] else ['A', 'M']).all
      (fun char => char.toNat < 0x80) = true := by
    split <;> decide
  rw [minuteOfDay_toList, List.all_append, List.all_append, List.all_append, List.all_cons,
    digits _ (Numeral.ofNat_all_isDigit _), colon, digits _ (displayMinute?_getD_all _), half]
  rfl

/-! ### Reading what is printed -/

/-- A minute of the day as it is printed, in lower case. -/
def printedClock (minute : Nat) : WrittenClock where
  figures :=
    { hour := Numeral.ofNat (displayHour (minute / 60))
      colon := decide (0 < minute % 60)
      minute := displayMinute? (minute % 60)
      hour_length := Numeral.length_ofNat_of_lt_hundred (displayHour_lt _)
      hour_digits := Numeral.all_isDigit_of_ascii (Numeral.ofNat_all_isDigit _)
      minute_length := displayMinute?_length (by omega)
      minute_digits := fun digits shown =>
        Numeral.all_isDigit_of_ascii (displayMinute?_all _ digits shown) }
  gap := [' ']
  mark := some (if 12 ≤ minute / 60 then .pm else .am)
  gap_blank := by decide
  mark_written := by split <;> decide

/-- Figures are printed with a colon before their minute. -/
theorem printedClock_loose (minute : Nat) : ¬ (printedClock minute).figures.Compact := by
  rintro ⟨_, noColon, shown⟩
  have zero : ¬ 0 < minute % 60 := of_decide_eq_false noColon
  change (displayMinute? (minute % 60)).isSome = true at shown
  rw [displayMinute?, if_neg zero] at shown
  cases shown

/-- A printed minute of the day in lower case is its written clock time. -/
theorem printedClock_text (minute : Nat) :
    (Phrases.minuteOfDay minute).toList.map Char.toLower = (printedClock minute).text := by
  have digits := Numeral.map_toLower_of_ascii
    (Numeral.ofNat_all_isDigit (displayHour (minute / 60)))
  have shown := Numeral.map_toLower_of_ascii (displayMinute?_getD_all (minute % 60))
  have colon : (if 0 < minute % 60 then [':'] else []).map Char.toLower =
      if (printedClock minute).figures.colon then [':'] else [] := by
    by_cases some : 0 < minute % 60
    · simp [printedClock, some]
    · simp [printedClock, some]
  have half : (if 12 ≤ minute / 60 then ['P', 'M'] else ['A', 'M']).map Char.toLower =
      markText (printedClock minute).mark := by
    by_cases afternoon : 12 ≤ minute / 60
    · simp only [printedClock, if_pos afternoon]
      decide
    · simp only [printedClock, if_neg afternoon]
      decide
  rw [minuteOfDay_toList, List.map_append, List.map_append, List.map_append, List.map_cons, digits,
    shown, colon, half]
  rfl

/-- A printed minute of the day names that minute. -/
theorem printedClock_minuteOfDay? {minute : Nat} (bound : minute ≤ lastMinuteOfDay) :
    (printedClock minute).meant.minuteOfDay? = some minute := by
  have named : ∀ hour < 24,
      (if 12 ≤ hour then ClockMark.pm else .am).hourOfDay? (displayHour hour) =
        some (hour : Int) := by
    decide
  have inDay : minute ≤ 1439 := bound
  have shownHour : Numeral.value (printedClock minute).meant.hour = displayHour (minute / 60) :=
    Numeral.value_ofNat _
  have shownMinute : Numeral.value ((printedClock minute).meant.minute.getD []) = minute % 60 :=
    value_displayMinute? _
  rw [ClockText.minuteOfDay?, shownHour, shownMinute, minuteOfDay?_eq_some_iff]
  exact ⟨by omega, bound, (minute / 60 : Nat), named (minute / 60) (by omega), by omega⟩

end OpeningHours.Listing
