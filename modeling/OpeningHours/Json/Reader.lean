import OpeningHours.Json.Basic
import OpeningHours.Text.Numeral

/-
JSON read back. A text is read as one value with nothing but white space around it. Escaped
characters outside the basic plane come as pairs of surrogates, which are put together again; half a
pair stands for no character and is replaced. The nesting of a value is bounded by the length of its
text, which bounds the reading in turn.
-/

namespace OpeningHours.Json

open Text

/-- The white space of the format. -/
def isSpace (char : Char) : Bool :=
  char = ' ' || char = '\n' || char = '\r' || char = '\t'

def skipSpace (text : List Char) : List Char :=
  text.dropWhile isSpace

/-! ### Texts -/

/-- The value of a hexadecimal digit. -/
def hexValue? (char : Char) : Option Nat :=
  if '0' ≤ char ∧ char ≤ '9' then some (char.toNat - 0x30)
  else if 'a' ≤ char ∧ char ≤ 'f' then some (char.toNat - 0x57)
  else if 'A' ≤ char ∧ char ≤ 'F' then some (char.toNat - 0x37)
  else none

/-- The code unit that four hexadecimal digits name. -/
def codeUnit? (first second third fourth : Char) : Option Nat := do
  let first ← hexValue? first
  let second ← hexValue? second
  let third ← hexValue? third
  let fourth ← hexValue? fourth
  return ((first * 16 + second) * 16 + third) * 16 + fourth

/-- What stands in for half a pair of surrogates. -/
def replacement : Char := Char.ofNat 0xfffd

/-- The characters that a row of code units stands for, the others being characters already. -/
inductive Piece where
  | char (char : Char)
  | unit (code : Nat)

/-- The pieces of a text up to its closing quote, and what follows the quote. -/
def readPieces : List Char → Option (List Piece × List Char)
  | [] => none
  | '\\' :: 'u' :: first :: second :: third :: fourth :: rest => do
    let code ← codeUnit? first second third fourth
    let (pieces, rest) ← readPieces rest
    return (.unit code :: pieces, rest)
  | '\\' :: char :: rest => do
    let meant ←
      match char with
      | '\\' => some '\\'
      | '/' => some '/'
      | 'n' => some '\n'
      | 'r' => some '\r'
      | 't' => some '\t'
      | 'f' => some (Char.ofNat 0x0c)
      | 'b' => some (Char.ofNat 0x08)
      | other => if other.toNat = 0x22 then some other else none
    let (pieces, rest) ← readPieces rest
    return (.char meant :: pieces, rest)
  | char :: rest =>
    if char.toNat = 0x22 then some ([], rest)
    else if char.toNat < 0x20 then none
    else do
      let (pieces, rest) ← readPieces rest
      return (.char char :: pieces, rest)

/-- The first half of a pair of surrogates. -/
def isHighSurrogate (code : Nat) : Bool :=
  decide (0xd800 ≤ code) && decide (code < 0xdc00)

/-- The second half of a pair of surrogates. -/
def isLowSurrogate (code : Nat) : Bool :=
  decide (0xdc00 ≤ code) && decide (code < 0xe000)

/-- Pairs of surrogates put together. -/
def joinPieces : List Piece → List Char
  | [] => []
  | .char char :: rest => char :: joinPieces rest
  | .unit high :: .unit low :: rest =>
    if isHighSurrogate high && isLowSurrogate low then
      Char.ofNat (0x10000 + (high - 0xd800) * 0x400 + (low - 0xdc00)) :: joinPieces rest
    else if isHighSurrogate high || isLowSurrogate high then
      replacement :: joinPieces (.unit low :: rest)
    else Char.ofNat high :: joinPieces (.unit low :: rest)
  | .unit code :: rest =>
    (if isHighSurrogate code || isLowSurrogate code then replacement else Char.ofNat code) ::
      joinPieces rest

/-- The text after an opening quote, and what follows its closing quote. -/
def readTextBody (text : List Char) : Option (String × List Char) :=
  (readPieces text).map fun (pieces, rest) => (String.ofList (joinPieces pieces), rest)

/-! ### Numbers -/

/-- The digits at the front of a text, and the rest. -/
def spanDigits (text : List Char) : List Char × List Char :=
  (text.takeWhile Char.isDigit, text.dropWhile Char.isDigit)

/-- The exponent at the front of a text, if there is one. -/
def readExponent : List Char → Option (Option Int × List Char)
  | [] => some (none, [])
  | mark :: rest =>
    if mark = 'e' ∨ mark = 'E' then
      let (sign, rest) := Numeral.splitSign rest
      match spanDigits rest with
      | ([], _) => none
      | (digits, rest) => some (some (sign * Numeral.value digits), rest)
    else some (none, mark :: rest)

/-- The digits after the point at the front of a text, if there is a point. -/
def readFraction : List Char → Option (Option (List Char) × List Char)
  | '.' :: rest =>
    match spanDigits rest with
    | ([], _) => none
    | (digits, rest) => some (some digits, rest)
  | text => some (none, text)

/-- The names of the numbers that are not finite. -/
def specialNumbers : List (List Char × Double) :=
  [("NaN".toList, .undefined), ("Infinity".toList, .infinite false),
   ("-Infinity".toList, .infinite true)]

/-- The number at the front of a text that is written in digits. -/
def readDigits (text : List Char) : Option (Json × List Char) := do
  let negative := decide (text.head? = some '-')
  let (whole, rest) := spanDigits (if negative then text.drop 1 else text)
  if whole = [] ∨ (whole.head? = some '0' ∧ 1 < whole.length) then none
  else
    let (fraction, rest) ← readFraction rest
    let (exponent, rest) ← readExponent rest
    match fraction, exponent with
    | none, none =>
      let size : Int := Numeral.value whole
      some (.int (if negative then -size else size), rest)
    | fraction, exponent =>
      let fraction := fraction.getD []
      some (.real (.ofDecimal negative (Numeral.value (whole ++ fraction))
        (exponent.getD 0 - fraction.length)), rest)

/-- The number at the front of a text. -/
def readNumber (text : List Char) : Option (Json × List Char) :=
  match specialNumbers.find? fun special => special.1.isPrefixOf text with
  | some (name, value) => some (.real value, text.drop name.length)
  | none => readDigits text

/-! ### Values -/

mutual

/-- The value at the front of a text; `depth` bounds the steps still to be taken. -/
def readValue (depth : Nat) (text : List Char) : Option (Json × List Char) :=
  match depth with
  | 0 => none
  | depth + 1 =>
    match skipSpace text with
    | 'n' :: 'u' :: 'l' :: 'l' :: rest => some (.null, rest)
    | 't' :: 'r' :: 'u' :: 'e' :: rest => some (.bool true, rest)
    | 'f' :: 'a' :: 'l' :: 's' :: 'e' :: rest => some (.bool false, rest)
    | '[' :: rest =>
      match skipSpace rest with
      | ']' :: rest => some (.array [], rest)
      | rest => (readItems depth rest).map fun (items, rest) => (.array items, rest)
    | '\x7b' :: rest =>
      match skipSpace rest with
      | '\x7d' :: rest => some (.object [], rest)
      | rest => (readFields depth rest).map fun (fields, rest) => (.object fields, rest)
    | '\x22' :: rest => (readTextBody rest).map fun (value, rest) => (.string value, rest)
    | text => readNumber text

/-- The items of an array up to its closing bracket. -/
def readItems (depth : Nat) (text : List Char) : Option (List Json × List Char) :=
  match depth with
  | 0 => none
  | depth + 1 => do
    let (item, rest) ← readValue depth text
    match skipSpace rest with
    | ',' :: rest =>
      let (items, rest) ← readItems depth rest
      return (item :: items, rest)
    | ']' :: rest => return ([item], rest)
    | _ => none

/-- The fields of an object up to its closing brace. -/
def readFields (depth : Nat) (text : List Char) : Option (List (String × Json) × List Char) :=
  match depth with
  | 0 => none
  | depth + 1 => do
    match skipSpace text with
    | '\x22' :: rest =>
      let (name, rest) ← readTextBody rest
      match skipSpace rest with
      | ':' :: rest =>
        let (value, rest) ← readValue depth rest
        match skipSpace rest with
        | ',' :: rest =>
          let (fields, rest) ← readFields depth rest
          return ((name, value) :: fields, rest)
        | '\x7d' :: rest => return ([(name, value)], rest)
        | _ => none
      | _ => none
    | _ => none

end

/-- The one value that a text holds. -/
def read (text : List Char) : Option Json := do
  let (value, rest) ← readValue (text.length + 1) text
  if skipSpace rest = [] then some value else none

/-- The one value that a text holds. -/
def ofString? (text : String) : Option Json :=
  read text.toList

end OpeningHours.Json
