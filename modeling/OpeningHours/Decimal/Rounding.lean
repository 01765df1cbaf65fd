/-
Rounding to the nearest whole number, where a number half way between two whole numbers goes to the
even one, and the powers by which numbers are scaled before and after.
-/

namespace OpeningHours.Decimal

/-- The whole number nearest to a fraction, the even one of two that are equally near. -/
def nearest (value : Rat) : Int :=
  let below := value.floor
  let excess := value - below
  if excess < 1 / 2 then below
  else if 1 / 2 < excess then below + 1
  else if below % 2 = 0 then below
  else below + 1

/-- A power of ten with a whole exponent of either sign. -/
def powerOfTen (exponent : Int) : Rat :=
  if 0 ≤ exponent then (Nat.pow 10 exponent.toNat : Rat)
  else 1 / (Nat.pow 10 (-exponent).toNat : Rat)

/-- A power of two with a whole exponent of either sign. -/
def powerOfTwo (exponent : Int) : Rat :=
  if 0 ≤ exponent then (Nat.pow 2 exponent.toNat : Rat)
  else 1 / (Nat.pow 2 (-exponent).toNat : Rat)

end OpeningHours.Decimal
