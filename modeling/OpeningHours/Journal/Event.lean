import OpeningHours.Json.Writer

/-
Events of a structured log. An event has a kind and the fields that go with it, to which the one who
records it may add more; an added field that bears the name of one already there replaces its value
and leaves it in its place. A field may hold something that cannot be written down, in which case
the event as a whole cannot; or writing it down may break off with an error that nobody is prepared
for.
-/

namespace OpeningHours

/-! ### What cannot be written down -/

/-- Why a value cannot be written down: one of its parts has a name that is no text, it is a part of
itself, one of its numbers has too many digits, or it cannot tell its text. -/
inductive Unwritable where
  | nameNotText (kind : String)
  | containsItself
  | numeralTooLong
  | textRefused (message : String)
  deriving DecidableEq, Repr

/-- What is said of a value that cannot be written down. -/
def Unwritable.message : Unwritable → String
  | nameNotText kind => "keys must be str, int, float, bool or None, not " ++ kind
  | containsItself => "Circular reference detected"
  | numeralTooLong =>
    "Exceeds the limit (" ++ toString Text.Numeral.digitLimit ++
      " digits) for integer string conversion; " ++
      "use sys.set_int_max_str_digits() to increase the limit"
  | textRefused message => message

/-- What writing comes upon: a value that cannot be written down, or an error that writing does not
expect. -/
inductive WritingFault where
  | unwritable (cause : Unwritable)
  | broken (error : String)
  deriving DecidableEq, Repr

namespace Json

mutual

/-- What writing a value comes upon first, if anything; `reach` is how many levels of nesting the
writer can follow. -/
def fault? (reach : Nat) : Json → Option WritingFault
  | .int value =>
    if Text.Numeral.digitLimit < (Text.Numeral.ofNat value.natAbs).length then
      some (.unwritable .numeralTooLong)
    else none
  | .array items =>
    match reach with
    | 0 => some (.broken "maximum recursion depth exceeded while encoding a JSON object")
    | reach + 1 => faultOfItems? reach items
  | .object fields =>
    match reach with
    | 0 => some (.broken "maximum recursion depth exceeded while encoding a JSON object")
    | reach + 1 => faultOfFields? reach fields
  | _ => none

/-- What writing the items of an array comes upon first. -/
def faultOfItems? (reach : Nat) : List Json → Option WritingFault
  | [] => none
  | item :: rest => (fault? reach item).or (faultOfItems? reach rest)

/-- What writing the fields of an object comes upon first. -/
def faultOfFields? (reach : Nat) : List (String × Json) → Option WritingFault
  | [] => none
  | (_, value) :: rest => (fault? reach value).or (faultOfFields? reach rest)

end

end Json

/-! ### Fields -/

/-- The value of a field of an event: one of the JSON format, one that cannot be written down, or
one the writing of which breaks off with an error. -/
inductive Payload where
  | json (value : Json)
  | unwritable (cause : Unwritable)
  | breaking (error : String)

/-- The value as it can be written down, or what writing it comes upon. -/
def Payload.written (reach : Nat) : Payload → Except WritingFault Json
  | json value =>
    match value.fault? reach with
    | some fault => .error fault
    | none => .ok value
  | unwritable cause => .error (.unwritable cause)
  | breaking error => .error (.broken error)

/-- A field of an event. -/
abbrev EventField : Type := String × Payload

/-- The fields with the value of one name set: where the name stands already its value changes in
place, and otherwise the field is added last. -/
def setPayload (name : String) (value : Payload) : List EventField → List EventField
  | [] => [(name, value)]
  | field :: rest =>
    if field.1 = name then (name, value) :: rest else field :: setPayload name value rest

/-- The fields with others added one after another. -/
def addPayloads (fields others : List EventField) : List EventField :=
  others.foldl (fun fields field => setPayload field.1 field.2 fields) fields

/-! ### Events -/

/-- What is recorded. -/
inductive EventKind where
  | start (name : String)
  | evaluation (hours : Option String) (kind : String) (isOpen : Option Bool)
  | error (name message : String)
  | warning (name message : String)
  | summary (name : String)
  deriving DecidableEq, Repr

/-- What is recorded, with the fields that were added. -/
structure Event where
  kind : EventKind
  extra : List EventField := []

namespace Event

/-- A text as the value of a field. -/
def text (value : String) : Payload :=
  .json (.string value)

/-- A truth value that may be unknown, as the value of a field. -/
def truth : Option Bool → Payload
  | some value => .json (.bool value)
  | none => .json .null

/-- The fields that go with what is recorded. -/
def ownFields : EventKind → List EventField
  | .start name => [("event", text "start"), ("name", text name)]
  | .evaluation hours kind isOpen =>
    [("event", text "evaluation"), ("hours", .json (Json.ofOption hours)), ("kind", text kind),
     ("is_open", truth isOpen)]
  | .error name message =>
    [("event", text "error"), ("name", text name), ("error", text message)]
  | .warning name message =>
    [("event", text "warning"), ("name", text name), ("message", text message)]
  | .summary name => [("event", text "summary"), ("name", text name)]

/-- All fields of an event. -/
def fields (event : Event) : List EventField :=
  addPayloads (ownFields event.kind) event.extra

end Event

/-- The fields as they can be written down, or what writing them comes upon first. -/
def writableFields (reach : Nat) : List EventField → Except WritingFault (List (String × Json))
  | [] => .ok []
  | (name, payload) :: rest =>
    match payload.written reach with
    | .error fault => .error fault
    | .ok value => (writableFields reach rest).map ((name, value) :: ·)

end OpeningHours
