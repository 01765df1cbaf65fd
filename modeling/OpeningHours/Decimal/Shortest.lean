import OpeningHours.Double
import OpeningHours.Text.Numeral

/-
Numbers of double precision are printed with the fewest digits by which they can be told from all
others. A decimal is read back as the number in whose interval it lies, so the shortest decimal
inside the interval is printed, the nearest one if several are equally short.
-/

namespace OpeningHours.Decimal

open Text

/-! ### Digits -/

/-- The digits of a positive number and the place of its point: `0.digits * 10 ^ place`. -/
structure Digits where
  digits : List Char
  place : Int

/-- The power of ten just above a positive number. -/
def magnitude (value : Rat) : Int :=
  if 1 ≤ value then ((Nat.toDigits 10 value.floor.toNat).length : Int)
  else
    let enough : Nat → Bool := fun zeros => decide (1 ≤ value * powerOfTen (zeros + 1))
    match (List.range 400).find? enough with
    | some zeros => -(zeros : Int)
    | none => -400

/-- The multiples of ten to the `place - count` on the two sides of the point that round to it, the
nearer one first. -/
def candidates (point : GridPoint) (place : Int) (count : Nat) : List Nat :=
  let step := powerOfTen (place - count)
  let below := (point.value / step).floor.toNat
  let nearer :=
    if Decimal.nearest (point.value / step) = below then [below, below + 1] else [below + 1, below]
  nearer.filter fun multiple => point.attracts (multiple * step)

/-- The fewest digits that single out the point of the grid. -/
def shortestDigits (point : GridPoint) : Digits :=
  let place := magnitude point.value
  let found := (List.range 17).findSome? fun fewer =>
    (candidates point place (fewer + 1)).head?.map fun multiple => (fewer + 1, multiple)
  let (count, multiple) := found.getD (17, 0)
  let digits := Nat.toDigits 10 multiple
  ⟨(digits.reverse.dropWhile (· = '0')).reverse, place + ((digits.length : Int) - count)⟩

/-! ### Layout -/

/-- Numbers from a ten-thousandth up to ten to the sixteenth are written out with a point, which at
least one digit follows; all others get an exponent of at least two digits with its sign. -/
def layOut (number : Digits) : List Char :=
  let digits := number.digits
  if -4 < number.place ∧ number.place ≤ 16 then
    if number.place ≤ 0 then
      ['0', '.'] ++ List.replicate (-number.place).toNat '0' ++ digits
    else
      let whole := digits.take number.place.toNat
      let zeros := List.replicate (number.place.toNat - digits.length) '0'
      let fraction := digits.drop number.place.toNat
      whole ++ zeros ++ ['.'] ++ (if fraction.isEmpty then ['0'] else fraction)
  else
    let exponent := number.place - 1
    let mantissa :=
      match digits with
      | first :: second :: rest => first :: '.' :: second :: rest
      | short => short
    let sign := if exponent < 0 then '-' else '+'
    mantissa ++ ['e', sign] ++ Numeral.padZeros 2 (Numeral.ofNat exponent.natAbs)

/-- The size of a finite number as it is printed. -/
def sizeText (size : Rat) : List Char :=
  if size = 0 then ['0', '.', '0'] else layOut (shortestDigits (.nearest size))

/-- A text with a minus sign in front where it is asked for. -/
def withSign (negative : Bool) (text : List Char) : List Char :=
  if negative then '-' :: text else text

/-- A number of double precision as it is printed. -/
def text : Double → List Char
  | .finite negative size => withSign negative (sizeText size)
  | .infinite negative => withSign negative "inf".toList
  | .undefined => "nan".toList

end OpeningHours.Decimal
