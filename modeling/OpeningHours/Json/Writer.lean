import OpeningHours.Json.Basic
import OpeningHours.Decimal.Shortest
import OpeningHours.Text.Quoted

/-
JSON written out. A text stands between double quotes with only the quote, the backslash and the
control characters escaped; every other character is written as it is. A value is laid out either on
one line, with a blank after each comma and colon, or over several lines, with two blanks of
indentation for each level.
-/

namespace OpeningHours.Json

open Text

/-- How one character of a text is written. -/
def escapeChar (char : Char) : List Char :=
  if char = Quoted.double then ['\\', Quoted.double]
  else if char = '\\' then ['\\', '\\']
  else if char = '\n' then ['\\', 'n']
  else if char = '\r' then ['\\', 'r']
  else if char = '\t' then ['\\', 't']
  else if char.toNat = 0x0c then ['\\', 'f']
  else if char.toNat = 0x08 then ['\\', 'b']
  else if char.toNat < 0x20 then '\\' :: 'u' :: Quoted.hexadecimal 4 char.toNat
  else [char]

/-- A text between double quotes. -/
def writeText (text : String) : List Char :=
  Quoted.double :: text.toList.flatMap escapeChar ++ [Quoted.double]

/-- A number of double precision; the numbers that are not finite have names of their own. -/
def writeReal : Double → List Char
  | .infinite negative => Decimal.withSign negative "Infinity".toList
  | .undefined => "NaN".toList
  | value => Decimal.text value

/-- A value that has no parts. -/
def writeAtom : Json → List Char
  | .null => "null".toList
  | .bool true => "true".toList
  | .bool false => "false".toList
  | .int value => Numeral.ofInt value
  | .real value => writeReal value
  | .string value => writeText value
  | .array _ => []
  | .object _ => []

/-! ### On one line -/

mutual

/-- A value on one line. -/
def write : Json → List Char
  | .array items => '[' :: writeItems items ++ [']']
  | .object fields => '\x7b' :: writeFields fields ++ ['\x7d']
  | atom => writeAtom atom

/-- The items of an array, separated. -/
def writeItems : List Json → List Char
  | [] => []
  | [item] => write item
  | item :: rest => write item ++ [',', ' '] ++ writeItems rest

/-- The fields of an object, separated. -/
def writeFields : List (String × Json) → List Char
  | [] => []
  | [(name, value)] => writeText name ++ [':', ' '] ++ write value
  | (name, value) :: rest =>
    writeText name ++ [':', ' '] ++ write value ++ [',', ' '] ++ writeFields rest

end

/-! ### Over several lines -/

/-- The start of a line at a level of indentation. -/
def newLine (level : Nat) : List Char :=
  '\n' :: List.replicate (2 * level) ' '

mutual

/-- A value over several lines, its own first line being at the given level. -/
def writeIndented (level : Nat) : Json → List Char
  | .array [] => ['[', ']']
  | .array items => '[' :: writeIndentedItems (level + 1) items ++ newLine level ++ [']']
  | .object [] => ['\x7b', '\x7d']
  | .object fields =>
    '\x7b' :: writeIndentedFields (level + 1) fields ++ newLine level ++ ['\x7d']
  | atom => writeAtom atom

/-- The items of an array, each on a line of its own. -/
def writeIndentedItems (level : Nat) : List Json → List Char
  | [] => []
  | [item] => newLine level ++ writeIndented level item
  | item :: rest =>
    newLine level ++ writeIndented level item ++ [','] ++ writeIndentedItems level rest

/-- The fields of an object, each on a line of its own. -/
def writeIndentedFields (level : Nat) : List (String × Json) → List Char
  | [] => []
  | [(name, value)] => newLine level ++ writeText name ++ [':', ' '] ++ writeIndented level value
  | (name, value) :: rest =>
    newLine level ++ writeText name ++ [':', ' '] ++ writeIndented level value ++ [','] ++
      writeIndentedFields level rest

end

/-- A value on one line. -/
def toLine (value : Json) : String :=
  String.ofList (write value)

/-- A value over several lines. -/
def toLines (value : Json) : String :=
  String.ofList (writeIndented 0 value)

end OpeningHours.Json
