import OpeningHours.Command.Run
import Std.Time.DateTime

/-
The command line. It takes the environment, the present instant and the octets of the file in hand
from the system, leaves the rest to a run, and writes out what the run leaves behind: its output,
its events as lines of a log among the error messages, and its complaint.
-/

open OpeningHours

/-- The present instant. -/
def presentInstant : IO Calendar.Instant := do
  let timestamp ← Std.Time.Timestamp.now
  return ⟨timestamp.toNanosecondsSinceUnixEpoch.val / 1000⟩

/-- A fresh trace of eight hexadecimal digits. -/
def freshTrace : IO String := do
  let octets ← IO.getRandomBytes 4
  return String.ofList (octets.toList.flatMap fun octet => Text.Quoted.hexadecimal 2 octet.toNat)

/-- The environment that the program was started in; no file with more variables is looked for. -/
def currentEnvironment : IO Environment := do
  return { timezone := ← IO.getEnv "OPENHOURS_TIMEZONE"
           logUnrecognized := ← IO.getEnv "OPENHOURS_LOG_UNRECOGNIZED" }

/-- The file at a path, by the plain form of the path; none if it cannot be read. -/
def filesAt (path : String) : IO Command.Files := do
  let plain := String.ofList (Command.Path.ofText path.toList).plain
  try
    let octets ← IO.FS.readBinFile plain
    return [(plain, octets.toList)]
  catch _ => return []

/-- The files that a command line speaks of. -/
def filesFor (arguments : List String) : IO Command.Files :=
  match Command.Request.ofArguments arguments with
  | .ok (.judge { file := .at path, .. }) => filesAt path
  | _ => return []

/-- What the clock shows at present, in seconds. -/
def presentReading : IO Double := do
  let now ← presentInstant
  return Double.ofRat ((now.microseconds : Rat) / 1000000)

/-- Readings of the clock, taken one after another; recording an event takes three at most. -/
def presentReadings : IO Readings := do
  let first ← presentReading
  let second ← presentReading
  let third ← presentReading
  return .ofSequence fun
    | 0 => first
    | 1 => second
    | _ => third

/-- Records the events of a run one after another: the first of them, by which the run was started,
with the readings from that time, and each other one with readings of its own. -/
def writeEvents (began : Readings) (events : List Event) : IO Unit := do
  -- The fields of these events have no parts, so that there is no nesting to be followed.
  let mut journal := Journal.create 0 (← freshTrace) none .accepting
  let mut readings := began
  for event in events do
    let (after, recorded, _) := journal.record event readings
    match recorded with
    | .ok (.logged text) | .ok (.complaint text) => IO.eprintln text
    | .error error => throw (IO.userError error)
    journal := after
    readings ← presentReadings

/-- Judges the hours texts of the command line. -/
def main (arguments : List String) : IO UInt32 := do
  let environment ← currentEnvironment
  let files ← filesFor arguments
  let began ← presentReadings
  match Command.execute Calendar.Zone.table environment (← presentInstant) files arguments with
  | .error breakdown =>
    writeEvents began breakdown.events
    IO.eprintln breakdown.cause.message
    return 1
  | .ok (.refused fault) =>
    IO.eprintln ("openhours: error: " ++ fault.message)
    return 2
  | .ok .help =>
    IO.print Command.helpText
    return 0
  | .ok (.report report) =>
    writeEvents began report.events
    IO.print report.output
    report.complaint.forM IO.eprintln
    return UInt32.ofNat report.exitCode
