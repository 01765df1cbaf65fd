import OpeningHours.Schedule
import OpeningHours.Text.Numeral
import OpeningHours.Text.Scan

/-
Clock times in an hours listing: an hour of one or two digits, perhaps minutes of exactly two digits
with or without a colon, and perhaps a mark for the half of the day. With a mark the hour is read on
the twelve-hour clock, without one on the twenty-four-hour clock.
-/

namespace OpeningHours.Listing

open Text

/-- What a clock time is marked with. A mark that names neither half of the day still confines the
hour to the twelve-hour clock. -/
inductive ClockMark where
  | am
  | pm
  | other
  deriving DecidableEq, Repr

namespace ClockMark

/-- The mark that a text makes; the empty text makes none. -/
def ofText? (text : List Char) : Option ClockMark :=
  if text.isEmpty then none
  else if text = ['a', 'm'] then some am
  else if text = ['p', 'm'] then some pm
  else some other

/-- The hour of the day, from zero on, that an hour with this mark names. -/
def hourOfDay? (mark : ClockMark) (hour : Int) : Option Int :=
  if hour < 1 ∨ 12 < hour then none
  else
    match mark with
    | am => some (if hour = 12 then 0 else hour)
    | pm => some (if hour = 12 then hour else hour + 12)
    | other => some hour

end ClockMark

/-- The minute of the day that an hour, a minute and a mark name together, if they name one. -/
def minuteOfDay? (hour minute : Int) (mark : Option ClockMark) : Option Nat :=
  if 59 < minute then none
  else do
    let hourOfDay ←
      match mark with
      | some mark => mark.hourOfDay? hour
      | none => if 23 < hour then none else some hour
    let total := hourOfDay * 60 + minute
    if 0 ≤ total ∧ total ≤ lastMinuteOfDay then some total.toNat else none

/-- The minute of the day that an hour and a minute given as numerals name together; a missing or
empty minute is zero. The hour is read first, so of two bad numerals its is the one complained of.
-/
def readMinuteOfDay (hour : List Char) (minute : Option (List Char)) (mark : Option ClockMark) :
    Except Numeral.Fault (Option Nat) := do
  let hour ← Numeral.read hour
  let minute ←
    match minute with
    | none | some [] => .ok 0
    | some minute => Numeral.read minute
  return minuteOfDay? hour minute mark

/-- A clock time as it stands in a listing. -/
structure ClockText where
  hour : List Char
  minute : Option (List Char)
  mark : Option ClockMark
  deriving DecidableEq

namespace ClockText

/-- The minute of the day that the clock time names, if it is in range. -/
def minuteOfDay? (clock : ClockText) : Option Nat :=
  Listing.minuteOfDay? (Numeral.value clock.hour) (Numeral.value (clock.minute.getD [])) clock.mark

end ClockText

/-! ### Finding clock times -/

/-- One or two digits, two of them by preference. -/
def hourScan : Scan (List Char) :=
  .orElse (.exactly isDigit 2) (.exactly isDigit 1)

/-- The mark of a half of the day. -/
def markScan : Scan ClockMark :=
  .firstOf [
    .andThen (.word ['a', 'm']) fun _ => .done .am,
    .andThen (.word ['p', 'm']) fun _ => .done .pm]

/-- A clock time with the given way of reading its mark. -/
def clockScanWith (mark : Scan (Option ClockMark)) : Scan ClockText :=
  .andThen hourScan fun hour =>
  .andThen (.optional (.word [':'])) fun _ =>
  .andThen (.optional (.exactly isDigit 2)) fun minute =>
  .andThen (.run isBlank) fun _ =>
  .andThen mark fun mark =>
  .done ⟨hour, minute, mark⟩

/-- A clock time whose mark may be missing. -/
def clockScan : Scan ClockText :=
  clockScanWith (.optional markScan)

/-- A clock time with its mark. -/
def markedClockScan : Scan ClockText :=
  clockScanWith (.andThen markScan fun mark => .done (some mark))

end OpeningHours.Listing
