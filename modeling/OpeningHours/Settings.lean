import OpeningHours.Text.LowerCase
import OpeningHours.Validation.Scalar

/-
The settings of the program: the time zone whose civil time counts, and whether texts that are not
recognized are recorded. They are taken from the environment each time they are needed; a blank
value counts as none.
-/

namespace OpeningHours

open Text

/-- The part of the environment that the program looks at. -/
structure Environment where
  timezone : Option String := none
  logUnrecognized : Option String := none
  deriving DecidableEq, Repr

structure Settings where
  timezone : String
  logUnrecognized : Bool
  deriving DecidableEq, Repr

/-- The zone that is used where none is set. -/
def defaultTimezone : String := "America/Vancouver"

/-- The text without white space at its ends, if anything is left of it. -/
def nonblank? : Option String → Option String
  | none => none
  | some text => if allBlank text.toList then none else some (trimmed text)

namespace Environment

/-- The zone that the environment names, or else the default zone. -/
def zoneName (environment : Environment) : String :=
  (nonblank? environment.timezone).getD defaultTimezone

/-- The words that switch a setting on, in any case. -/
def affirmatives : List (List Char) :=
  ["1".toList, "true".toList, "yes".toList, "on".toList]

/-- The environment asks for texts that are not recognized to be recorded. -/
def logsUnrecognized (environment : Environment) : Bool :=
  match environment.logUnrecognized with
  | none => false
  | some text => decide (lower (strip text.toList) ∈ affirmatives)

end Environment

/-- The settings in an environment, where a zone that is given goes before the one that the
environment names. -/
def Settings.resolve (environment : Environment) (timezone : Option String) : Settings where
  timezone := (nonblank? timezone).getD environment.zoneName
  logUnrecognized := environment.logsUnrecognized

namespace Validation

/-- Settings, each with its default. -/
def settings : Json → Checked Settings :=
  record "HoursSettings" fun fields =>
    (both (optional "timezone" defaultTimezone string fields)
      (optional "log_unrecognized" false boolean fields)).map
      fun (timezone, logUnrecognized) => ⟨timezone, logUnrecognized⟩

end Validation

end OpeningHours
