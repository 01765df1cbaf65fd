import OpeningHours.Decimal.Grid

/-
Numbers of double precision: the points of the binary grid with either sign, the two infinities and
the undefined number. Zero has a sign as well. A sum, a difference or a product is worked out
exactly and then brought to the nearest point of the grid, and one that is too large for the grid is
infinite.
-/

namespace OpeningHours

/-- A number of double precision. The size of a finite one is a point of the grid. -/
inductive Double where
  | finite (negative : Bool) (size : Rat)
  | infinite (negative : Bool)
  | undefined
  deriving DecidableEq, Inhabited

namespace Double

open Decimal

/-- Every number from this one on is too large for the grid. -/
def limit : Rat := powerOfTwo 1024

/-- The number with a sign and a size, brought to the grid. -/
def round (negative : Bool) (size : Rat) : Double :=
  let point := (GridPoint.nearest size).value
  if limit ≤ point then infinite negative else finite negative point

/-- A fraction, brought to the grid. -/
def ofRat (value : Rat) : Double :=
  if value < 0 then round true (-value) else round false value

/-- A decimal, `significand * 10 ^ exponent`, brought to the grid. Decimals far beyond the ends of
the grid are told by the number of their digits. -/
def ofDecimal (negative : Bool) (significand : Nat) (exponent : Int) : Double :=
  let place := ((Nat.toDigits 10 significand).length : Int) + exponent
  if significand = 0 ∨ place < -400 then finite negative 0
  else if 400 < place then infinite negative
  else round negative ((significand : Rat) * powerOfTen exponent)

/-- A size with its sign. -/
def signed (negative : Bool) (size : Rat) : Rat :=
  if negative then -size else size

/-- The number as a fraction, if it is finite. -/
def toRat? : Double → Option Rat
  | finite negative size => some (signed negative size)
  | infinite _ => none
  | undefined => none

/-! ### Arithmetic -/

/-- The number with the other sign. -/
def neg : Double → Double
  | finite negative size => finite (!negative) size
  | infinite negative => infinite (!negative)
  | undefined => undefined

/-- A sum. One that comes to zero is negative only when both numbers are. -/
def add : Double → Double → Double
  | finite negative size, finite otherNegative otherSize =>
    let sum := signed negative size + signed otherNegative otherSize
    if sum = 0 then finite (negative && otherNegative) 0 else ofRat sum
  | infinite negative, infinite otherNegative =>
    if negative = otherNegative then infinite negative else undefined
  | infinite negative, finite _ _ => infinite negative
  | finite _ _, infinite negative => infinite negative
  | undefined, _ => undefined
  | _, undefined => undefined

/-- A product. -/
def mul : Double → Double → Double
  | finite negative size, finite otherNegative otherSize =>
    round (negative != otherNegative) (size * otherSize)
  | infinite negative, infinite otherNegative => infinite (negative != otherNegative)
  | infinite negative, finite otherNegative size =>
    if size = 0 then undefined else infinite (negative != otherNegative)
  | finite negative size, infinite otherNegative =>
    if size = 0 then undefined else infinite (negative != otherNegative)
  | undefined, _ => undefined
  | _, undefined => undefined

instance : Neg Double := ⟨neg⟩

instance : Add Double := ⟨add⟩

instance : Sub Double := ⟨fun first second => first + -second⟩

instance : Mul Double := ⟨mul⟩

/-- The nearest multiple of a tenth, brought to the grid; a number half way between two multiples
goes to the even one. -/
def toTenths : Double → Double
  | finite negative size => round negative (nearest (size * 10) / 10)
  | other => other

end Double

end OpeningHours
