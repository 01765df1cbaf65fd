import OpeningHours.Decimal.Rounding

/-
The binary grid of double precision. Its points have significands of at most 53 binary digits, so
the steps between them double with every power of two; below the least normal number the steps stay
as they are. Around each point lies the interval of the numbers that are nearer to it than to its
neighbours.
-/

namespace OpeningHours.Decimal

/-- A point of the grid of double precision: `significand * 2 ^ exponent`. -/
structure GridPoint where
  significand : Nat
  exponent : Int

namespace GridPoint

def value (point : GridPoint) : Rat :=
  (point.significand : Rat) * powerOfTwo point.exponent

/-- The exponent of the finest step of the grid. -/
def leastExponent : Int := -1074

/-- The point nearest to a number that is not negative, of two that are equally near the one with
the even significand. -/
def nearest (value : Rat) : GridPoint :=
  let estimate : Int := (value.num.natAbs.log2 : Int) - (value.den.log2 : Int) - 52
  let exponent :=
    if value < powerOfTwo (estimate + 52) then estimate - 1 else estimate
  let exponent := max exponent leastExponent
  let significand := (Decimal.nearest (value / powerOfTwo exponent)).toNat
  if significand = Nat.pow 2 53 then ⟨Nat.pow 2 52, exponent + 1⟩ else ⟨significand, exponent⟩

/-- A number rounds to the point: it lies within half a step of it, and just half a step away only
when the significand is even. Below a power of two the steps are half as wide. -/
def attracts (point : GridPoint) (value : Rat) : Bool :=
  let step := powerOfTwo point.exponent
  let stepBelow :=
    if point.significand = Nat.pow 2 52 ∧ leastExponent < point.exponent then step / 2 else step
  let low := point.value - stepBelow / 2
  let high := point.value + step / 2
  if point.significand % 2 = 0 then decide (low ≤ value) && decide (value ≤ high)
  else decide (low < value) && decide (value < high)

end GridPoint

end OpeningHours.Decimal
