import OpeningHours.Calendar.Notation
import OpeningHours.Clock
import OpeningHours.Command.Arguments
import OpeningHours.Command.Files
import OpeningHours.Journal.Recorder
import OpeningHours.Record
import OpeningHours.Status.Announcement
import OpeningHours.Status.Order

/-
A run of the command. The zone and the instant are settled first, then the texts are gathered, those
of the command line before those of the file, and then each text is judged at the one civil time.
The run yields what it prints, the events it records in order, and its exit code: zero, or two when
the clock, the instant or the file was bad.
-/

namespace OpeningHours.Command

open Text

/-! ### Printing -/

/-- One hours text with its status, as a line. The next opening is added where the phrase does not
speak of it. -/
def statusLine (hours : String) (status : Option OpenStatus) : String :=
  match status with
  | none => "UNKNOWN  " ++ hours
  | some status =>
    let label := if status.isOpen then "OPEN   " else "CLOSED "
    let opening :=
      match status.nextOpening with
      | some next =>
        if !status.isOpen && !next.isEmpty && !occursIn next.toList status.phrase.toList then
          " (" ++ next ++ ")"
        else ""
      | none => ""
    label ++ " " ++ hours ++ " - " ++ status.phrase ++ opening

/-- An hours text with its status, as a record. -/
def rowRecord (row : String × Option OpenStatus) : Json :=
  .object
    [("hours", .string row.1),
     ("status", match row.2 with
      | some status => status.record
      | none => .null)]

/-- The rows as they are printed. -/
def printed (json : Bool) (rows : List (String × Option OpenStatus)) : String :=
  if json then (Json.array (rows.map rowRecord)).toLines ++ "\n"
  else String.ofList (rows.flatMap fun row => (statusLine row.1 row.2).toList ++ ['\n'])

/-! ### Judging -/

/-- A text with its schedule and its status at the civil time of the run. -/
structure Judgement where
  hours : String
  schedule : Schedule
  status : Option OpenStatus

/-- A text judged at a civil time. -/
def Judgement.of (now : CivilTime) (hours : String) : Judgement :=
  let schedule := Schedule.ofText (some hours)
  ⟨hours, schedule, schedule.statusAt now⟩

/-- The events about one text: a warning where it is not recognized and that is to be recorded, and
then its evaluation. -/
def Judgement.events (logsUnrecognized : Bool) (judgement : Judgement) : List Event :=
  let warning : List Event :=
    if logsUnrecognized && decide (judgement.schedule = .unrecognized) &&
        !allBlank judgement.hours.toList then
      [⟨.warning "parser" "unrecognized hours text", [("hours", Event.text judgement.hours)]⟩]
    else []
  warning ++
    [⟨.evaluation (some judgement.hours) judgement.schedule.kind.name
      (judgement.status.map (·.isOpen)), []⟩]

/-- The name under which the whole run is recorded. -/
def runName : String := "cli"

/-- A count as the value of a field. -/
def countField (name : String) (count : Nat) : EventField :=
  (name, .json (.int count))

/-- The event that closes a run. -/
def summaryEvent (judgements : List Judgement) : Event :=
  ⟨.summary runName,
    [countField "total" judgements.length,
     countField "open" (judgements.countP fun judgement => OpenStatus.isKnownOpen judgement.status),
     countField "unknown" (judgements.countP fun judgement => judgement.status.isNone)]⟩

/-! ### Runs -/

/-- What a run leaves behind. -/
structure Report where
  exitCode : Nat
  output : String
  complaint : Option String
  events : List Event

/-- Why a run breaks off. -/
inductive BreakdownCause where
  | outsideCalendar
  | zeroInPath
  | withoutPath
  deriving DecidableEq, Repr

/-- What is said when a run breaks off. -/
def BreakdownCause.message : BreakdownCause → String
  | outsideCalendar => ClockFault.message .outsideCalendar
  | zeroInPath => "embedded null byte"
  | withoutPath => "'list' object has no attribute 'read_text'"

/-- What is left of a run that breaks off without a report. -/
structure Breakdown where
  cause : BreakdownCause
  events : List Event

/-- Why the civil time of a run cannot be settled. -/
inductive TimeFault where
  | clock (fault : ClockFault)
  | instant (given : String) (fault : Calendar.Fault)
  | outsideCalendar

/-- The civil time of a run: that of the given instant, or else of the present one. -/
def settleTime (zones : Calendar.ZoneTable) (zoneName : String) (given : Option String)
    (now : Calendar.Instant) : Except TimeFault CivilTime := do
  let offsetAt ← (findZone zones (some zoneName)).mapError .clock
  let instant ←
    match given with
    | none => pure now
    | some text =>
      if text.isEmpty then pure now
      else ((Calendar.DateTime.ofText text).map (·.instant)).mapError (.instant text)
  match Calendar.civilTimeAt? offsetAt instant with
  | some civilTime => .ok civilTime
  | none => .error .outsideCalendar

/-- The report of a run that came to nothing. -/
def failed (started : Event) (name message : String) (extra : List EventField)
    (complaint : String) : Report where
  exitCode := 2
  output := ""
  complaint := some ("error: " ++ complaint)
  events := [started, ⟨.error name message, extra⟩]

/-- The report of a run that judges texts. -/
def completed (started : Event) (logsUnrecognized sort json : Bool) (now : CivilTime)
    (texts : List String) : Report :=
  let judgements := texts.map (Judgement.of now)
  let rows := judgements.map fun judgement => (judgement.hours, judgement.status)
  { exitCode := 0
    output := printed json (if sort then OpenStatus.sortBy (·.2) rows else rows)
    complaint := none
    events := started :: judgements.flatMap (Judgement.events logsUnrecognized) ++
      [summaryEvent judgements] }

/-- The path of the file that is asked for, in its plain form. -/
def FileChoice.plainPath : FileChoice → String
  | .at path => String.ofList (Path.ofText path.toList).plain
  | _ => ""

/-- The texts to judge: those of the command line, and those of the file that is asked for. -/
def gatherTexts (texts : List String) (file : FileChoice) (files : Files) :
    Except BreakdownCause (Except FileFault (List String)) :=
  match file with
  | .absent => .ok (.ok texts)
  | .withoutPath => .error .withoutPath
  | .at path =>
    if path.toList.contains (Char.ofNat 0) then .error .zeroInPath
    else .ok ((files.textsAt (.ofText path.toList)).map (texts ++ ·))

/-- A run with arguments that were understood, by what is known of time zones. -/
def run (zones : Calendar.ZoneTable) (environment : Environment) (now : Calendar.Instant)
    (files : Files) (arguments : Arguments) : Except Breakdown Report :=
  let settings := Settings.resolve environment arguments.timezone
  let started : Event := ⟨.start runName, [("timezone", Event.text settings.timezone)]⟩
  match settleTime zones settings.timezone arguments.instant now with
  | .error (.clock fault) => .ok (failed started "clock" fault.message [] fault.message)
  | .error (.instant given fault) =>
    .ok (failed started "at" fault.message [("value", Event.text given)]
      ("invalid --at value " ++ Quoted.ofString given))
  | .error .outsideCalendar => .error ⟨.outsideCalendar, [started]⟩
  | .ok civilTime =>
    match gatherTexts arguments.texts arguments.file files with
    | .error cause => .error ⟨cause, [started]⟩
    | .ok (.error fault) =>
      .ok (failed started "file" fault.message []
        ("cannot read " ++ arguments.file.plainPath ++ ": " ++ fault.message))
    | .ok (.ok texts) =>
      .ok (completed started settings.logUnrecognized arguments.sort arguments.json civilTime
        texts)

/-- What becomes of a command line. -/
inductive Outcome where
  | refused (fault : UsageFault)
  | help
  | report (report : Report)

/-- A run with the arguments of a command line. -/
def execute (zones : Calendar.ZoneTable) (environment : Environment) (now : Calendar.Instant)
    (files : Files) (arguments : List String) : Except Breakdown Outcome :=
  match Request.ofArguments arguments with
  | .error fault => .ok (.refused fault)
  | .ok .help => .ok .help
  | .ok (.judge arguments) => (run zones environment now files arguments).map .report

/-- The events that a run leaves behind, if it came to a run at all. -/
def eventsOf : Except Breakdown Outcome → Option (List Event)
  | .error breakdown => some breakdown.events
  | .ok (.report report) => some report.events
  | .ok .help => none
  | .ok (.refused _) => none

end OpeningHours.Command
