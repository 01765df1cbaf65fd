import OpeningHours.Calendar.DateTime
import OpeningHours.Text.Quoted

/-
Dates and times in the notation of the international standard. The date is given by year, month and
day or by year, week and day of the week, with dashes or without; one character of any kind
separates it from the time; the time has hours, perhaps minutes and seconds, with colons or without,
and perhaps a fraction; and at the end there may be a letter Z or a signed distance from universal
time. A complete text may be ended by a zero character. A text that has this shape may still name a
month, a day or an hour that does not exist.
-/

namespace OpeningHours.Calendar

open Text

/-- Why a text denotes no date and time. -/
inductive Fault where
  | malformed (text : List Char)
  | yearOutOfRange (year : Int)
  | monthOutOfRange
  | dayOutOfRange
  | hourOutOfRange
  | minuteOutOfRange
  | secondOutOfRange
  | offsetOutOfRange (microseconds : Int)
  deriving DecidableEq, Repr

/-- A span of time as days, seconds and microseconds, the parts that are zero left out. -/
def spanText (microseconds : Int) : String :=
  let days := microseconds / 86400000000
  let seconds := microseconds % 86400000000 / 1000000
  let rest := microseconds % 1000000
  let part := fun (name : String) (amount : Int) =>
    if amount = 0 then [] else [name ++ "=" ++ Numeral.toText amount]
  let parts := part "days" days ++ part "seconds" seconds ++ part "microseconds" rest
  "datetime.timedelta(" ++ String.intercalate ", " (if parts.isEmpty then ["0"] else parts) ++ ")"

namespace Fault

/-- What is said of a fault. -/
def message : Fault → String
  | malformed text => "Invalid isoformat string: " ++ String.ofList (Quoted.encode text)
  | yearOutOfRange year => "year " ++ Numeral.toText year ++ " is out of range"
  | monthOutOfRange => "month must be in 1..12"
  | dayOutOfRange => "day is out of range for month"
  | hourOutOfRange => "hour must be in 0..23"
  | minuteOutOfRange => "minute must be in 0..59"
  | secondOutOfRange => "second must be in 0..59"
  | offsetOutOfRange microseconds =>
    "offset must be a timedelta strictly between " ++
      "-timedelta(hours=24) and timedelta(hours=24), not " ++ spanText microseconds ++ "."

end Fault

/-! ### Digits -/

/-- A row of exactly `count` digits at the front of a text: its number, and the rest. -/
def digits? (count : Nat) (text : List Char) : Option (Nat × List Char) :=
  let row := text.take count
  if row.length = count ∧ row.all Char.isDigit then some (Numeral.value row, text.drop count)
  else none

/-! ### The date -/

/-- A date as it is written, not yet known to exist. -/
inductive WrittenDate where
  | byMonth (year month day : Nat)
  | byWeek (year week day : Nat)

/-- How many characters the date takes when it gives a week without dashes: the digits after the
week belong to a time of pairs of digits, so their number tells whether the day of the week is one
of them. -/
def bareWeekLength (text : List Char) : Nat :=
  let reached := 7 + ((text.drop 7).takeWhile Char.isDigit).length
  if reached < 9 then reached
  else if reached % 2 = 0 then 7
  else 8

/-- How many characters the date takes. After a week and a dash a single digit is the day of the
week, whereas two characters that start with no letter begin the time. -/
def dateLength (text : List Char) : Nat :=
  if text.length = 7 then 7
  else if text[4]? = some '-' then
    if text[5]? = some 'W' then
      if text[8]? = some '-' then
        if text[10]?.any Char.isDigit then 8 else 10
      else 8
    else 10
  else if text[4]? = some 'W' then bareWeekLength text
  else 8

/-- A date by year, week and day of the week, from the week on. -/
def readWeekDate (year : Nat) (dashed : Bool) (text : List Char) : Option WrittenDate := do
  let (week, rest) ← digits? 2 text
  match rest, dashed with
  | [], _ => some (.byWeek year week 1)
  | '-' :: rest, true =>
    let (day, _) ← digits? 1 rest
    some (.byWeek year week day)
  | _, true => none
  | rest, false =>
    let (day, _) ← digits? 1 rest
    some (.byWeek year week day)

/-- A date by year, month and day, from the month on. -/
def readMonthDate (year : Nat) (dashed : Bool) (text : List Char) : Option WrittenDate := do
  let (month, rest) ← digits? 2 text
  let rest ←
    match rest, dashed with
    | '-' :: rest, true => some rest
    | _, true => none
    | rest, false => some rest
  let (day, _) ← digits? 2 rest
  some (.byMonth year month day)

/-- The date that a text of the length of a date gives. -/
def readDate (text : List Char) : Option WrittenDate := do
  let (year, rest) ← digits? 4 text
  match rest with
  | '-' :: 'W' :: rest => readWeekDate year true rest
  | 'W' :: rest => readWeekDate year false rest
  | '-' :: rest => readMonthDate year true rest
  | rest => readMonthDate year false rest

/-- The date of a day of a week. The first week of a year is the one with its first Thursday, and a
year has a fifty-third week only if that Thursday or the last one falls on its first or last day;
the weeks of the year zero lie before the first month of the calendar. -/
def weekDate? (year week day : Nat) : Option Date :=
  let newYear := (Date.mk year 1 1).dayNumber
  let newYearDay := ((newYear + 3) % 7).toNat
  let hasLongYear := newYearDay = 3 || (newYearDay = 2 && isLeapYear year)
  if week = 0 || 53 < week || (week = 53 && !hasLongYear) || day = 0 || 7 < day then none
  else
    let firstMonday := newYear - newYearDay + (if 3 < newYearDay then 7 else 0)
    some (Date.ofDayNumber (firstMonday + (week - 1) * 7 + day - 1))

/-- The date that is written, if there is one of that shape. -/
def WrittenDate.date? : WrittenDate → Option Date
  | byMonth year month day => some ⟨year, month, day⟩
  | byWeek year week day =>
    (weekDate? year week day).map fun date => if year = 0 then ⟨firstYear, 0, date.day⟩ else date

/-! ### The time -/

/-- A time of day as it is written, and whether something was left over after it. -/
structure WrittenTime where
  hour : Nat
  minute : Nat
  second : Nat
  microsecond : Nat
  leftOver : Bool

/-- The separator of a fraction. -/
def isDecimalMark (char : Char) : Bool :=
  char = '.' || char = ','

/-- The character that ends a text. -/
def isTerminator (char : Char) : Bool :=
  char.toNat = 0

/-- A text is at its end: nothing follows, or a zero character does. -/
def atEnd (text : List Char) : Bool :=
  text.head?.all isTerminator

/-- A fraction of a second in microseconds; digits after the sixth do not count. -/
def readFraction (time : WrittenTime) (text : List Char) : Option WrittenTime := do
  let count := min text.length 6
  let (value, rest) ← digits? count text
  some { time with
    microsecond := value * Nat.pow 10 (6 - count)
    leftOver := !atEnd (rest.dropWhile Char.isDigit) }

/-- What follows the hours, the minutes or the seconds of a time: nothing, one last character that
belongs to no part, a fraction, or the next part, for which `next` is responsible. Between parts
that are set apart a colon is required. -/
def readAfter (separated : Bool) (time : WrittenTime)
    (next : List Char → Option WrittenTime) : List Char → Option WrittenTime
  | [] => some { time with leftOver := false }
  | [char] => if char.toNat < 0x80 then some { time with leftOver := !isTerminator char } else none
  | char :: rest =>
    if separated && char = ':' then next rest
    else if isDecimalMark char then readFraction time rest
    else if separated then none
    else next (char :: rest)

/-- A time of day. The character after the hours tells whether the parts are set apart by colons. -/
def readTime (text : List Char) : Option WrittenTime := do
  let (hour, rest) ← digits? 2 text
  let separated := rest.head? = some ':'
  let time : WrittenTime := ⟨hour, 0, 0, 0, false⟩
  readAfter separated time (fun rest => do
    let (minute, rest) ← digits? 2 rest
    let time := { time with minute := minute }
    readAfter separated time (fun rest => do
      let (second, rest) ← digits? 2 rest
      let time := { time with second := second }
      readAfter separated time (readFraction time) rest) rest) rest

/-- A character with which the distance from universal time begins. -/
def startsOffset (char : Char) : Bool :=
  char = '+' || char = '-' || char = 'Z'

/-- The distance from universal time in microseconds; a distance of less than a second is none. -/
def readOffset : List Char → Option (Option Int)
  | [] => some none
  | 'Z' :: rest => if atEnd rest then some (some 0) else none
  | sign :: rest => do
    let time ← readTime rest
    if time.leftOver then none
    else
      let seconds := time.hour * 3600 + time.minute * 60 + time.second
      let total : Int := if seconds = 0 then 0 else seconds * 1000000 + time.microsecond
      some (some (if sign = '-' then -total else total))

/-- The time of day and the distance from universal time after the separator. -/
def readTimeAndOffset (text : List Char) : Option (WrittenTime × Option Int) := do
  let body := text.takeWhile fun char => !startsOffset char
  let offsetText := text.drop body.length
  let time ← readTime body
  if offsetText.isEmpty && time.leftOver then none
  else
    let offset ← readOffset offsetText
    some (time, offset)

/-! ### The whole -/

/-- The parts of a date and time as they are written. -/
def readParts (text : List Char) : Option (Date × WrittenTime × Option Int) := do
  let length := dateLength text
  let date ← readDate (text.take length)
  let date ← date.date?
  match text.drop length with
  | [] => some (date, ⟨0, 0, 0, 0, false⟩, none)
  | _ :: rest =>
    let (time, offset) ← readTimeAndOffset rest
    some (date, time, offset)

/-- The date and time with the given parts, if they all exist. -/
def checkParts (date : Date) (time : WrittenTime) (offset : Option Int) : Except Fault DateTime :=
  if offset.any fun distance => decide (86400000000 ≤ distance.natAbs) then
    .error (.offsetOutOfRange (offset.getD 0))
  else if !inCalendar date.year then .error (.yearOutOfRange date.year)
  else if date.month < 1 ∨ 12 < date.month then .error .monthOutOfRange
  else if date.day < 1 ∨ monthLength date.year date.month < date.day then .error .dayOutOfRange
  else if 23 < time.hour then .error .hourOutOfRange
  else if 59 < time.minute then .error .minuteOutOfRange
  else if 59 < time.second then .error .secondOutOfRange
  else .ok ⟨date, time.hour, time.minute, time.second, time.microsecond, offset⟩

/-- The date and time that a text denotes. -/
def DateTime.ofText (text : String) : Except Fault DateTime :=
  match readParts text.toList with
  | none => .error (.malformed text.toList)
  | some (date, time, offset) => checkParts date time offset

end OpeningHours.Calendar
