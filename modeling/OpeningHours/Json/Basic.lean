import OpeningHours.Double

/-
Values of the JSON format. An object keeps its fields in the order in which they stand; of two
fields with one name the later one counts.
-/

namespace OpeningHours

inductive Json where
  | null
  | bool (value : Bool)
  | int (value : Int)
  | real (value : Double)
  | string (value : String)
  | array (items : List Json)
  | object (fields : List (String × Json))
  deriving Inhabited

namespace Json

/-- The value of a field; the last one of that name. -/
def fieldOf? (name : String) (fields : List (String × Json)) : Option Json :=
  (fields.reverse.find? fun field => decide (field.1 = name)).map (·.2)

/-- The value of a field of an object. -/
def field? (name : String) : Json → Option Json
  | .object fields => fieldOf? name fields
  | _ => none

/-- The text that a value is, if it is one. -/
def string? : Json → Option String
  | .string value => some value
  | _ => none

def ofOption : Option String → Json
  | some value => .string value
  | none => .null

end Json

end OpeningHours
