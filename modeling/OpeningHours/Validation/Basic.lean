import OpeningHours.Json.Display
import OpeningHours.Schedule

/-
Values that come in from outside are checked before they are used. A check either yields a value or
lists everything that is wrong, each problem with the path that leads to it. Parts of a record are
checked side by side, so that the problems of all of them are listed; a rule about the whole record
is looked at only when its parts are sound.
-/

namespace OpeningHours.Validation

/-- A step on the way into a value. -/
inductive Step where
  | field (name : String)
  | item (index : Nat)
  deriving DecidableEq, Repr

/-- What is wrong with a value. -/
inductive Cause where
  | missing
  | notRecord (model : String)
  | notInteger
  | unreadableInteger
  | fractionalInteger
  | notFinite
  | tooManyDigits
  | belowMinimum (minimum : Int)
  | aboveMaximum (maximum : Int)
  | notWeekday
  | notMeal
  | notBoolean
  | unreadableBoolean
  | notText
  | notDaySet
  | notMealList
  | noDays
  | closesBeforeOpening
  | notTagged
  | tagMissing
  | tagUnknown (tag : Json)

namespace Cause

/-- The short name of a cause. -/
def code : Cause → String
  | missing => "missing"
  | notRecord _ => "model_type"
  | notInteger => "int_type"
  | unreadableInteger => "int_parsing"
  | fractionalInteger => "int_from_float"
  | notFinite => "finite_number"
  | tooManyDigits => "int_parsing_size"
  | belowMinimum _ => "greater_than_equal"
  | aboveMaximum _ => "less_than_equal"
  | notWeekday => "enum"
  | notMeal => "enum"
  | notBoolean => "bool_type"
  | unreadableBoolean => "bool_parsing"
  | notText => "string_type"
  | notDaySet => "frozen_set_type"
  | notMealList => "tuple_type"
  | noDays => "value_error"
  | closesBeforeOpening => "value_error"
  | notTagged => "model_attributes_type"
  | tagMissing => "union_tag_not_found"
  | tagUnknown _ => "union_tag_invalid"

/-- A kind of schedule as the message about an unknown tag lists it. -/
def expectedTag (kind : ScheduleKind) : String :=
  "<ParseKind." ++ String.ofList (kind.name.toList.map Char.toUpper) ++ ": " ++
    Text.Quoted.ofString kind.name ++ ">"

/-- What is said of a cause. -/
def message : Cause → String
  | missing => "Field required"
  | notRecord model => "Input should be a valid dictionary or instance of " ++ model
  | notInteger => "Input should be a valid integer"
  | unreadableInteger =>
    "Input should be a valid integer, unable to parse string as an integer"
  | fractionalInteger =>
    "Input should be a valid integer, got a number with a fractional part"
  | notFinite => "Input should be a finite number"
  | tooManyDigits => "Unable to parse input string as an integer, exceeded maximum size"
  | belowMinimum minimum =>
    "Input should be greater than or equal to " ++ Text.Numeral.toText minimum
  | aboveMaximum maximum => "Input should be less than or equal to " ++ Text.Numeral.toText maximum
  | notWeekday => "Input should be 0, 1, 2, 3, 4, 5 or 6"
  | notMeal => "Input should be 'breakfast', 'lunch' or 'dinner'"
  | notBoolean => "Input should be a valid boolean"
  | unreadableBoolean => "Input should be a valid boolean, unable to interpret input"
  | notText => "Input should be a valid string"
  | notDaySet => "Input should be a valid frozenset"
  | notMealList => "Input should be a valid tuple"
  | noDays => "Value error, applicability needs at least one day"
  | closesBeforeOpening => "Value error, close time must be after open time on the same day"
  | notTagged => "Input should be a valid dictionary or object to extract fields from"
  | tagMissing => "Unable to extract tag using discriminator 'kind'"
  | tagUnknown tag =>
    "Input tag '" ++ tag.spoken ++
      "' found using 'kind' does not match any of the expected tags: " ++
      String.intercalate ", " (ScheduleKind.all.map expectedTag)

end Cause

/-- Something that is wrong with a value, and where in it. -/
structure Problem where
  path : List Step
  cause : Cause

/-- A sound value, or everything that is wrong. -/
abbrev Checked (Value : Type) : Type := Except (List Problem) Value

/-- One problem with the value itself. -/
def reject {Value : Type} (cause : Cause) : Checked Value :=
  .error [⟨[], cause⟩]

/-- A check of a part, seen from the whole that the step leads into. -/
def within {Value : Type} (step : Step) : Checked Value → Checked Value
  | .ok value => .ok value
  | .error problems =>
    .error (problems.map fun problem => { problem with path := step :: problem.path })

/-- Two checks side by side: the problems of both are listed, those of the first one first. -/
def both {First Second : Type} : Checked First → Checked Second → Checked (First × Second)
  | .ok first, .ok second => .ok (first, second)
  | .error problems, .ok _ => .error problems
  | .ok _, .error problems => .error problems
  | .error first, .error second => .error (first ++ second)

/-- Checks of the items of a list, numbered from `index` on. -/
def eachFrom {Value : Type} (check : Json → Checked Value) (index : Nat) :
    List Json → Checked (List Value)
  | [] => .ok []
  | item :: rest =>
    (both (within (.item index) (check item)) (eachFrom check (index + 1) rest)).map
      fun (value, values) => value :: values

/-- Checks of all items of a list. -/
def each {Value : Type} (check : Json → Checked Value) (items : List Json) : Checked (List Value) :=
  eachFrom check 0 items

/-- The check of a field that must be there. -/
def required {Value : Type} (name : String) (check : Json → Checked Value)
    (fields : List (String × Json)) : Checked Value :=
  within (.field name)
    (match Json.fieldOf? name fields with
    | some value => check value
    | none => reject .missing)

/-- The check of a field that has a default. -/
def optional {Value : Type} (name : String) (default : Value) (check : Json → Checked Value)
    (fields : List (String × Json)) : Checked Value :=
  match Json.fieldOf? name fields with
  | some value => within (.field name) (check value)
  | none => .ok default

/-- The check of a record by its fields. -/
def record {Value : Type} (model : String) (check : List (String × Json) → Checked Value) :
    Json → Checked Value
  | .object fields => check fields
  | _ => reject (.notRecord model)

end OpeningHours.Validation
