/-
The days of the week. They are numbered from Sunday, which is zero, and the week is a circle: moving
on by seven days leads back to the same day.
-/

namespace OpeningHours

inductive Weekday where
  | sunday
  | monday
  | tuesday
  | wednesday
  | thursday
  | friday
  | saturday
  deriving DecidableEq, Repr, Inhabited

namespace Weekday

/-- The seven days, Sunday first. -/
def all : List Weekday :=
  [sunday, monday, tuesday, wednesday, thursday, friday, saturday]

/-- The number of a day, zero for Sunday. -/
def index : Weekday → Nat
  | sunday => 0
  | monday => 1
  | tuesday => 2
  | wednesday => 3
  | thursday => 4
  | friday => 5
  | saturday => 6

/-- The day with a number, counted round the week. -/
def ofIndex (number : Nat) : Weekday :=
  match number % 7 with
  | 0 => sunday
  | 1 => monday
  | 2 => tuesday
  | 3 => wednesday
  | 4 => thursday
  | 5 => friday
  | _ => saturday

/-- The day with a number from zero to six. -/
def ofNumber? (number : Int) : Option Weekday :=
  if 0 ≤ number ∧ number < 7 then some (ofIndex number.toNat) else none

/-- The day with a number when the numbering starts from Monday, counted round the week. -/
def ofMondayFirst (number : Int) : Weekday :=
  ofIndex ((number + 1) % 7).toNat

/-- The day so many days later. -/
def later (day : Weekday) (days : Nat) : Weekday :=
  ofIndex (day.index + days)

/-- How many days on from the first day the second one comes next, the day itself being reached at
once. -/
def daysTo (first second : Weekday) : Nat :=
  (second.index + 7 - first.index) % 7

/-- The name of a day. -/
def name : Weekday → String
  | sunday => "Sunday"
  | monday => "Monday"
  | tuesday => "Tuesday"
  | wednesday => "Wednesday"
  | thursday => "Thursday"
  | friday => "Friday"
  | saturday => "Saturday"

/-- What is said of a value, as messages show it, that is not the number of any day. -/
def unknownMessage (shown : String) : String :=
  shown ++ " is not a valid Weekday"

/-! ### The circle of days -/

theorem mem_all (day : Weekday) : day ∈ all := by
  cases day <;> decide

theorem index_lt_seven (day : Weekday) : day.index < 7 := by
  cases day <;> decide

@[simp] theorem ofIndex_index (day : Weekday) : ofIndex day.index = day := by
  cases day <;> rfl

@[simp] theorem index_ofIndex (number : Nat) : (ofIndex number).index = number % 7 := by
  have small : number % 7 < 7 := Nat.mod_lt _ (by decide)
  unfold ofIndex
  generalize number % 7 = rest at small
  match rest with
  | 0 | 1 | 2 | 3 | 4 | 5 | 6 => rfl
  | excess + 7 => omega

theorem ofNumber?_index (day : Weekday) : ofNumber? day.index = some day := by
  have small := day.index_lt_seven
  rw [ofNumber?, if_pos ⟨Int.natCast_nonneg _, by omega⟩, Int.toNat_natCast, ofIndex_index]

theorem index_injective {first second : Weekday} (equal : first.index = second.index) :
    first = second := by
  rw [← ofIndex_index first, equal, ofIndex_index]

@[simp] theorem index_later (day : Weekday) (days : Nat) :
    (day.later days).index = (day.index + days) % 7 := by
  simp [later]

@[simp] theorem later_zero (day : Weekday) : day.later 0 = day := by
  simp [later]

@[simp] theorem later_seven (day : Weekday) : day.later 7 = day := by
  cases day <;> rfl

theorem later_later (day : Weekday) (first second : Nat) :
    (day.later first).later second = day.later (first + second) := by
  apply index_injective
  simp only [index_later]
  omega

@[simp] theorem later_daysTo (first second : Weekday) :
    first.later (first.daysTo second) = second := by
  cases first <;> cases second <;> rfl

end Weekday

end OpeningHours
