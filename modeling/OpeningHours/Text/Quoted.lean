import OpeningHours.Text.Printable
import OpeningHours.Text.Numeral

/-
Texts in messages stand between quotes, with every character that would not show written out as an
escape. The quotes are single ones unless the text holds a single quote and no double one. A text
that is no numeral is quoted in the message about it, but not beyond a limit.
-/

namespace OpeningHours.Text.Quoted

/-- The single quote. -/
def single : Char := Char.ofNat 0x27

/-- The double quote. -/
def double : Char := Char.ofNat 0x22

/-- The quote that encloses a text. -/
def quoteFor (text : List Char) : Char :=
  if text.contains single && !text.contains double then double else single

/-- A code point in hexadecimal with at least `width` digits. -/
def hexadecimal (width : Nat) (code : Nat) : List Char :=
  Numeral.padZeros width (Nat.toDigits 16 code)

/-- How one character is written between the given quotes. -/
def encodeChar (quote char : Char) : List Char :=
  if char = quote || char = '\\' then ['\\', char]
  else if char = '\t' then ['\\', 't']
  else if char = '\n' then ['\\', 'n']
  else if char = '\r' then ['\\', 'r']
  else if isPrintable char then [char]
  else if char.toNat < 0x100 then '\\' :: 'x' :: hexadecimal 2 char.toNat
  else if char.toNat < 0x10000 then '\\' :: 'u' :: hexadecimal 4 char.toNat
  else '\\' :: 'U' :: hexadecimal 8 char.toNat

/-- The text between quotes. -/
def encode (text : List Char) : List Char :=
  let quote := quoteFor text
  quote :: text.flatMap (encodeChar quote) ++ [quote]

/-- The text between quotes. -/
def ofString (text : String) : String :=
  String.ofList (encode text.toList)

end OpeningHours.Text.Quoted

namespace OpeningHours.Text.Numeral

/-- How much of a text that is no numeral is shown. -/
def shownLimit : Nat := 200

/-- What is said of a text that is not read as a whole number. -/
def Fault.message : Fault → String
  | malformed text =>
    "invalid literal for int() with base 10: " ++
      String.ofList ((Quoted.encode text).take shownLimit)
  | tooLong digits =>
    "Exceeds the limit (" ++ toText digitLimit ++ " digits) for integer string conversion: " ++
      "value has " ++ toText digits ++
      " digits; use sys.set_int_max_str_digits() to increase the limit"

end OpeningHours.Text.Numeral
