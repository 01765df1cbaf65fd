import OpeningHours.Json.Basic
import OpeningHours.Decimal.Shortest
import OpeningHours.Text.Quoted

/-
How a value is shown in a message: texts between quotes as in any message, the truth values and the
missing value by their names with a capital, and everything else much as it is written in JSON.
-/

namespace OpeningHours.Json

open Text

/-- A value that has no parts, as a message shows it. -/
def displayAtom : Json → List Char
  | .null => "None".toList
  | .bool true => "True".toList
  | .bool false => "False".toList
  | .int value => Numeral.ofInt value
  | .real value => Decimal.text value
  | .string value => Quoted.encode value.toList
  | .array _ => []
  | .object _ => []

mutual

/-- A value as a message shows it. -/
def display : Json → List Char
  | .array items => '[' :: displayItems items ++ [']']
  | .object fields => '\x7b' :: displayFields fields ++ ['\x7d']
  | atom => displayAtom atom

/-- The items of an array, separated. -/
def displayItems : List Json → List Char
  | [] => []
  | [item] => display item
  | item :: rest => display item ++ [',', ' '] ++ displayItems rest

/-- The fields of an object, separated. -/
def displayFields : List (String × Json) → List Char
  | [] => []
  | [(name, value)] => Quoted.encode name.toList ++ [':', ' '] ++ display value
  | (name, value) :: rest =>
    Quoted.encode name.toList ++ [':', ' '] ++ display value ++ [',', ' '] ++ displayFields rest

end

/-- A value as a message shows it. -/
def displayed (value : Json) : String :=
  String.ofList (display value)

/-- A value as part of a sentence: a text stands without quotes. -/
def spoken : Json → String
  | .string value => value
  | value => value.displayed

end OpeningHours.Json
