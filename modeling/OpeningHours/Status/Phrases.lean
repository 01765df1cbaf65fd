import OpeningHours.Text.Numeral

/-
The short phrases in which a status speaks of times of day and of spans of time. A time of day is
given on the twelve-hour clock and leaves out minutes that are zero. Every phrase is defined for all
whole numbers: hours are counted by rounding down, so the minutes that remain are never negative.
-/

namespace OpeningHours.Phrases

open Text

/-- A time of day, such as `9 AM` or `5:30 PM`. -/
def clockTime (hour minute : Int) : String :=
  let displayHour := if hour % 12 = 0 then 12 else hour % 12
  let displayMinute :=
    if 0 < minute then ":" ++ String.ofList (Numeral.padZeros 2 (Numeral.ofInt minute)) else ""
  Numeral.toText displayHour ++ displayMinute ++ " " ++ (if 12 ≤ hour then "PM" else "AM")

/-- A minute of the day as a time of day. -/
def minuteOfDay (minute : Int) : String :=
  clockTime (minute / 60) (minute % 60)

/-- Hours and minutes in short; minutes that are zero are left out. -/
def hoursAndMinutes (hours minutes : Int) : String :=
  if 0 < minutes then Numeral.toText hours ++ "h " ++ Numeral.toText minutes ++ "m"
  else Numeral.toText hours ++ "h"

/-- How long it is until opening. -/
def untilOpen (minutes : Int) : String :=
  let hours := minutes / 60
  let rest := minutes % 60
  if hours = 0 then "Opens in " ++ Numeral.toText rest ++ " min"
  else if hours = 1 ∧ rest = 0 then "Opens in 1 hour"
  else "Opens in " ++ hoursAndMinutes hours rest

/-- From this many minutes before closing on, closing is announced in minutes. -/
def closingSoonMinutes : Int := 30

/-- How long it is until closing. -/
def untilClose (minutes : Int) : String :=
  let hours := minutes / 60
  let rest := minutes % 60
  if minutes ≤ closingSoonMinutes ∨ hours = 0 then "Closes in " ++ Numeral.toText minutes ++ " min"
  else if hours = 1 ∧ rest = 0 then "Closes in 1 hour"
  else if hours = 1 then "Closes in 1h " ++ Numeral.toText rest ++ "m"
  else "Open for " ++ hoursAndMinutes hours rest

/-- How many days off a day is. -/
def daysUntil (days : Int) : String :=
  if days = 1 then "tomorrow" else "in " ++ Numeral.toText days ++ " days"

end OpeningHours.Phrases
