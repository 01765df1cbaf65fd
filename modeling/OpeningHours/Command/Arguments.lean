import OpeningHours.Text.Quoted
import OpeningHours.Text.Scan

/-
The arguments of the command line. An argument that begins with a dash is an option, unless it is a
dash alone, looks like a negative number or holds a blank; a long option may be cut short as long as
only one option begins that way, and may have its value joined on with an equals sign. The other
arguments are hours texts, and so is everything after a double dash; but only the first unbroken row
of such arguments is taken, and the others are not recognized.

In two places the releases of the argument parser differ, and those up to 3.11.8 and 3.12.2 are
followed here. A double dash that is joined on as a value is dropped, so that the option is left
without a value, where later releases take it for the value. And what is joined on to the letter for
help is looked at before the help is shown: a letter without an option is refused there, where later
releases show the help first.
-/

namespace OpeningHours.Command

open Text

/-- The options there are. -/
inductive Switch where
  | help
  | file
  | at
  | timezone
  | sort
  | json
  deriving DecidableEq, Repr

namespace Switch

/-- The spellings of the options. -/
def spellings : List (String × Switch) :=
  [("-h", help), ("--help", help), ("--file", file), ("--at", .at), ("--timezone", timezone),
   ("--sort", sort), ("--json", json)]

/-- An option as a message names it. -/
def title : Switch → String
  | help => "-h/--help"
  | file => "--file"
  | .at => "--at"
  | timezone => "--timezone"
  | sort => "--sort"
  | json => "--json"

/-- The option is followed by a value. -/
def takesValue : Switch → Bool
  | file | .at | timezone => true
  | help | sort | json => false

end Switch

/-- Why arguments are refused. -/
inductive UsageFault where
  | ambiguous (given : String) (candidates : List String)
  | valueExpected (switch : Switch)
  | valueIgnored (switch : Switch) (value : String)
  | notRecognized (arguments : List String)
  deriving DecidableEq, Repr

/-- What is said of arguments that are refused. -/
def UsageFault.message : UsageFault → String
  | ambiguous given candidates =>
    "ambiguous option: " ++ given ++ " could match " ++ String.intercalate ", " candidates
  | valueExpected switch => "argument " ++ switch.title ++ ": expected one argument"
  | valueIgnored switch value =>
    "argument " ++ switch.title ++ ": ignored explicit argument " ++ Quoted.ofString value
  | notRecognized arguments => "unrecognized arguments: " ++ String.intercalate " " arguments

/-- How many dashes an option is spelled with. -/
inductive Spelling where
  | short
  | long
  deriving DecidableEq, Repr

/-- What an argument is. An option may have a value joined on: after an equals sign, or right behind
its letter. -/
inductive Token where
  | text (value : String)
  | separator
  | switch (switch : Switch) (spelling : Spelling) (joined : Option String)
  | unknown (value : String)
  deriving DecidableEq, Repr

/-! ### Telling arguments apart -/

/-- The text before the first equals sign, and the text after it. -/
def splitAtEquals (text : List Char) : List Char × Option (List Char) :=
  let front := text.takeWhile (· ≠ '=')
  match text.drop front.length with
  | [] => (front, none)
  | _ :: value => (front, some value)

/-- The spelling of an argument that stands for an option. -/
def spellingOf : List Char → Spelling
  | '-' :: '-' :: _ => .long
  | _ => .short

/-- The options whose spelling the argument may stand for, without and with a joined value: a long
option cut short, or a short one with its value behind it. -/
def candidates (argument : List Char) : List (String × Switch × Option String) :=
  match spellingOf argument with
  | .long =>
    let (front, value) := splitAtEquals argument
    (Switch.spellings.filter fun spelling => front.isPrefixOf spelling.1.toList).map
      fun spelling => (spelling.1, spelling.2, value.map String.ofList)
  | .short =>
    Switch.spellings.filterMap fun spelling =>
      if spelling.1.toList = argument.take 2 then
        some (spelling.1, spelling.2, some (String.ofList (argument.drop 2)))
      else if argument.isPrefixOf spelling.1.toList then some (spelling.1, spelling.2, none)
      else none

/-- The argument looks like a negative number. -/
def isNegativeNumber (argument : List Char) : Bool :=
  match argument with
  | '-' :: body =>
    let body := if body.getLast? = some '\n' then body.dropLast else body
    let whole := body.takeWhile isDigit
    match body.drop whole.length with
    | [] => !whole.isEmpty
    | '.' :: fraction => !fraction.isEmpty && fraction.all isDigit
    | _ => false
  | _ => false

/-- What an argument before any double dash is. -/
def classify (argument : String) : Except UsageFault Token :=
  let chars := argument.toList
  let spelling := spellingOf chars
  let (front, value) := splitAtEquals chars
  if chars.head? ≠ some '-' then .ok (.text argument)
  else
    match Switch.spellings.lookup argument with
    | some switch => .ok (.switch switch spelling none)
    | none =>
      if chars.length = 1 then .ok (.text argument)
      else
        match value.bind fun value =>
            (Switch.spellings.lookup (String.ofList front)).map fun switch => (switch, value) with
        | some (switch, value) => .ok (.switch switch spelling (some (String.ofList value)))
        | none =>
          match candidates chars with
          | [(_, switch, joined)] => .ok (.switch switch spelling joined)
          | first :: second :: rest =>
            .error (.ambiguous argument ((first :: second :: rest).map (·.1)))
          | [] =>
            if isNegativeNumber chars || chars.contains ' ' then .ok (.text argument)
            else .ok (.unknown argument)

/-- What the arguments are, in order. -/
def tokens : List String → Except UsageFault (List Token)
  | [] => .ok []
  | argument :: rest =>
    if argument = "--" then .ok (.separator :: rest.map .text)
    else do
      let token ← classify argument
      let others ← tokens rest
      return token :: others

/-! ### Taking them in -/

/-- The file that is asked for: none, the one at a path, or one that was given no path, its value
having been a double dash that was dropped. -/
inductive FileChoice where
  | absent
  | at (path : String)
  | withoutPath
  deriving DecidableEq, Repr

/-- The arguments taken in. -/
structure Arguments where
  texts : List String := []
  file : FileChoice := .absent
  instant : Option String := none
  timezone : Option String := none
  sort : Bool := false
  json : Bool := false
  deriving DecidableEq, Repr

namespace Arguments

/-- The arguments with the value of an option set. A double dash as the value is dropped, as it is
up to the releases 3.11.8 and 3.12.2. -/
def setValue (arguments : Arguments) (switch : Switch) (value : String) : Arguments :=
  let known := if value = "--" then none else some value
  match switch with
  | .file =>
    { arguments with
      file :=
        match known with
        | some path => .at path
        | none => .withoutPath }
  | .at => { arguments with instant := known }
  | .timezone => { arguments with timezone := known }
  | _ => arguments

/-- The arguments with an option without a value switched on. -/
def switchOn (arguments : Arguments) (switch : Switch) : Arguments :=
  match switch with
  | .sort => { arguments with sort := true }
  | .json => { arguments with json := true }
  | _ => arguments

end Arguments

/-- Whether hours texts are still to come, are just coming, or have come. -/
inductive TextsPhase where
  | ahead
  | coming
  | past
  deriving DecidableEq, Repr

/-- How far arguments have been taken in, and which of them were not recognized. -/
structure Progress where
  arguments : Arguments := {}
  phase : TextsPhase := .ahead
  leftOver : List String := []

namespace Progress

/-- An hours text comes: it is taken unless the row of texts has come to its end before. -/
def addText (progress : Progress) (value : String) : Progress :=
  match progress.phase with
  | .past => { progress with leftOver := progress.leftOver ++ [value] }
  | _ =>
    { progress with
      phase := .coming
      arguments := { progress.arguments with texts := progress.arguments.texts ++ [value] } }

/-- A double dash comes: it belongs to the row of texts, but is no text itself. -/
def addSeparator (progress : Progress) : Progress :=
  match progress.phase with
  | .past => { progress with leftOver := progress.leftOver ++ ["--"] }
  | _ => { progress with phase := .coming }

/-- An option comes, which ends a row of texts that has begun. -/
def endTexts (progress : Progress) : Progress :=
  match progress.phase with
  | .coming => { progress with phase := .past }
  | _ => progress

/-- The progress with other arguments. -/
def withArguments (progress : Progress) (arguments : Arguments) : Progress :=
  { progress with arguments := arguments }

end Progress

/-- What the arguments ask for. -/
inductive Request where
  | help
  | judge (arguments : Arguments)
  deriving DecidableEq, Repr

/-- The part of a joined value that an option which takes none cannot use. Behind a short option
stand the letters of further short options, of which help is the only one there is; they are all
looked at before the help is shown, as they are up to the releases 3.11.8 and 3.12.2. -/
def ignoredPart : Spelling → List Char → Option (List Char)
  | .short, ['h'] => none
  | .short, 'h' :: rest => ignoredPart .short rest
  | _, value => some value

/-- The arguments taken in one after another. -/
def takeIn (progress : Progress) : List Token → Except UsageFault Request
  | [] =>
    if progress.leftOver.isEmpty then .ok (.judge progress.arguments)
    else .error (.notRecognized progress.leftOver)
  | .text value :: rest => takeIn (progress.addText value) rest
  | .separator :: rest => takeIn progress.addSeparator rest
  | .unknown value :: rest =>
    let progress := progress.endTexts
    takeIn { progress with leftOver := progress.leftOver ++ [value] } rest
  | .switch switch spelling joined :: rest =>
    let progress := progress.endTexts
    if switch.takesValue then
      match joined with
      | some value =>
        takeIn (progress.withArguments (progress.arguments.setValue switch value)) rest
      | none =>
        match rest with
        | .text value :: rest =>
          takeIn (progress.withArguments (progress.arguments.setValue switch value)) rest
        | _ => .error (.valueExpected switch)
    else
      match joined.bind fun value => ignoredPart spelling value.toList with
      | some ignored => .error (.valueIgnored switch (String.ofList ignored))
      | none =>
        if switch = .help then .ok .help
        else takeIn (progress.withArguments (progress.arguments.switchOn switch)) rest

/-- What a list of arguments asks for. -/
def Request.ofArguments (arguments : List String) : Except UsageFault Request := do
  takeIn {} (← tokens arguments)

/-! ### Help -/

/-- How the command is used. -/
def helpText : String :=
  "usage: openhours [-h] [--file FILE] [--at AT] [--timezone TIMEZONE] [--sort]\n" ++
  "                 [--json]\n" ++
  "                 [hours ...]\n\n" ++
  "Report whether free-text opening hours are open right now.\n\n" ++
  "positional arguments:\n" ++
  "  hours                hours text, e.g. 'Mon-Fri 9am-5pm'\n\n" ++
  "options:\n" ++
  "  -h, --help           show this help message and exit\n" ++
  "  --file FILE          read one hours text per line\n" ++
  "  --at AT              ISO-8601 instant to evaluate at (naive = UTC)\n" ++
  "  --timezone TIMEZONE  IANA timezone, overrides OPENHOURS_TIMEZONE\n" ++
  "  --sort               order output open first, unknown last\n" ++
  "  --json               emit JSON instead of text lines\n"

end OpeningHours.Command
