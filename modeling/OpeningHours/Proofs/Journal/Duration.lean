import OpeningHours.Journal.Recorder
import OpeningHours.Proofs.Decimal.Grid

/-
What a duration in the log comes to. It is worked out in double precision: the difference of the two
readings, this a thousand times, and that to one place. Where the difference and its thousandfold
are numbers of double precision nothing is lost on the way, so that the duration is the number of
double precision for the tenth that is nearest to the duration in fractions. Rounding treats both
signs alike, since the nearest whole number, the even one of two, is so for both.
-/

namespace OpeningHours

/-! ### Exact numbers -/

namespace Double

open Decimal

/-- The fraction is a number of double precision. -/
def IsExact (value : Rat) : Prop :=
  (ofRat value).toRat? = some value

/-- The number is the fraction, and its size is not negative. -/
def Shows (number : Double) (value : Rat) : Prop :=
  ∃ negative size, number = finite negative size ∧ 0 ≤ size ∧ signed negative size = value

theorem toRat?_round (negative : Bool) {size : Rat} (nonneg : 0 ≤ size) :
    (round negative size).toRat? = (ofRat (signed negative size)).toRat? := by
  cases negative with
  | false =>
    rw [signed, if_neg Bool.false_ne_true, ofRat, if_neg (not_lt.mpr nonneg)]
  | true =>
    rcases nonneg.eq_or_lt with rfl | positive
    · decide +kernel
    · rw [signed, if_pos rfl, ofRat, if_pos (neg_neg_of_pos positive), neg_neg]

/-- What is brought to the grid has a size that is not negative. -/
theorem shows_of_toRat?_round {negative : Bool} {size value : Rat}
    (finite : (round negative size).toRat? = some value) : Shows (round negative size) value := by
  unfold round at finite ⊢
  dsimp only at finite ⊢
  split at finite
  · cases finite
  · next small =>
    rw [if_neg small]
    exact ⟨negative, _, rfl, GridPoint.value_nonneg _, Option.some.inj finite⟩

theorem shows_round {negative : Bool} {size : Rat} (nonneg : 0 ≤ size)
    (exact : IsExact (signed negative size)) :
    Shows (round negative size) (signed negative size) :=
  shows_of_toRat?_round ((toRat?_round negative nonneg).trans exact)

theorem shows_ofRat {value : Rat} (exact : IsExact value) : Shows (ofRat value) value := by
  unfold IsExact ofRat at exact
  unfold ofRat
  split at exact
  · next negative => exact if_pos negative ▸ shows_of_toRat?_round exact
  · next nonneg => exact if_neg nonneg ▸ shows_of_toRat?_round exact

theorem shows_sub {first second : Double} {value other : Rat} (one : first.toRat? = some value)
    (another : second.toRat? = some other) (exact : IsExact (value - other)) :
    Shows (first - second) (value - other) := by
  cases first with
  | infinite _ => cases one
  | undefined => cases one
  | finite negative size =>
    cases second with
    | infinite _ => cases another
    | undefined => cases another
    | finite otherNegative otherSize =>
      have sum : signed negative size + signed (!otherNegative) otherSize = value - other := by
        rw [← Option.some.inj one, ← Option.some.inj another]
        cases otherNegative <;> simp [signed, sub_eq_add_neg]
      change Shows (add (finite negative size) (finite (!otherNegative) otherSize)) _
      unfold add
      dsimp only
      rw [sum]
      split
      · next zero => exact ⟨_, 0, rfl, le_refl 0, by rw [zero]; unfold signed; split <;> rfl⟩
      · exact shows_ofRat exact

theorem signed_mul (negative : Bool) (size factor : Rat) :
    signed negative (size * factor) = signed negative size * factor := by
  cases negative
  · rfl
  · exact (neg_mul size factor).symm

theorem Shows.mul_thousand {number : Double} {value : Rat} (shows : Shows number value)
    (exact : IsExact (value * 1000)) : Shows (number * ofRat 1000) (value * 1000) := by
  obtain ⟨negative, size, rfl, nonneg, rfl⟩ := shows
  have thousand : ofRat 1000 = finite false 1000 := by decide +kernel
  have product : finite negative size * ofRat 1000 = round negative (size * 1000) := by
    rw [thousand]
    cases negative <;> rfl
  rw [product, ← signed_mul]
  exact shows_round (by positivity) (by rwa [signed_mul])

/-- To one place a number comes to the number for the nearest tenth. -/
theorem Shows.toTenths {number : Double} {value : Rat} {tenths : Int} (shows : Shows number value)
    (isNearest : IsNearest (value * 10) tenths) :
    number.toTenths.toRat? = (ofRat (tenths / 10)).toRat? := by
  obtain ⟨negative, size, rfl, nonneg, rfl⟩ := shows
  have nearestSize : IsNearest (size * 10) (nearest (size * 10)) := isNearest_nearest _
  have nearestNonneg : 0 ≤ nearest (size * 10) := by
    obtain ⟨-, high⟩ := abs_le.mp nearestSize.within
    have above : (-1 : Rat) < nearest (size * 10) := by linarith
    have : -1 < nearest (size * 10) := by exact_mod_cast above
    omega
  have same : signed negative (nearest (size * 10) / 10) = tenths / 10 := by
    cases negative with
    | false => rw [nearestSize.unique isNearest]; rfl
    | true =>
      have mirrored : tenths = -nearest (size * 10) :=
        isNearest.unique ((neg_mul size 10).symm ▸ nearestSize.neg)
      rw [mirrored, Int.cast_neg, neg_div]
      rfl
  change (round negative (nearest (size * 10) / 10)).toRat? = _
  rw [toRat?_round negative (by positivity), same]

end Double

namespace Journal

/-- Where nothing is lost on the way, a duration is the number of double precision for the tenth
that is nearest to a thousand times the time between the two readings. -/
theorem toRat?_duration {start now : Double} {began ended : Rat} {tenths : Int}
    (startShows : start.toRat? = some began) (nowShows : now.toRat? = some ended)
    (difference : Double.IsExact (ended - began))
    (thousandfold : Double.IsExact ((ended - began) * 1000))
    (isNearest : Decimal.IsNearest ((ended - began) * 1000 * 10) tenths) :
    (duration start now).toRat? = (Double.ofRat (tenths / 10)).toRat? :=
  ((Double.shows_sub nowShows startShows difference).mul_thousand thousandfold).toTenths isNearest

example : (duration (Double.ofRat 1000) (Double.ofRat (4005 / 4))).toRat? = some 1250 := by
  decide +kernel

/-- A number measures the time between two readings: it is worked out from them in double precision,
which comes to the same as fractions where nothing is lost on the way. -/
structure Measures (start now took : Double) : Prop where
  computed : took = duration start now
  exact : ∀ {began ended : Rat} {tenths : Int}, start.toRat? = some began →
    now.toRat? = some ended → Double.IsExact (ended - began) →
      Double.IsExact ((ended - began) * 1000) →
        Decimal.IsNearest ((ended - began) * 1000 * 10) tenths →
          took.toRat? = (Double.ofRat (tenths / 10)).toRat?

theorem measures_duration (start now : Double) : Measures start now (duration start now) :=
  ⟨rfl, toRat?_duration⟩

theorem isOnGrid_duration (start now : Double) : (duration start now).IsOnGrid :=
  ((Double.isOnGrid_add now (-start)).mul (Double.isOnGrid_ofRat 1000)).toTenths

end Journal

end OpeningHours
