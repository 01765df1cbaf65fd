import OpeningHours.Journal.Event

/-
The structured log: each event becomes one line, to which the trace of the log and the time are
added last. The log keeps a timer for every name that was started; a summary of that name takes the
timer away and tells the time since. An event that cannot be written down leaves no line in the log,
but one about the failure among the error messages; an error that writing does not expect is passed
on to the one who records the event, and leaves no line at all.
-/

namespace OpeningHours

/-- A source of clock readings: what the next reading shows, how many have been taken, and what
comes after a reading with a number that shows a time. -/
structure Readings where
  next : Double
  following : Nat → Double → Double
  taken : Nat := 0

namespace Readings

/-- Readings that show the times of a sequence. -/
def ofSequence (shown : Nat → Double) : Readings where
  next := shown 0
  following := fun number _ => shown (number + 1)

/-- Readings that advance by the same step each time. -/
def regular (start step : Double) : Readings where
  next := start
  following := fun _ time => time + step

/-- The next reading. -/
def take (readings : Readings) : Double × Readings :=
  (readings.next,
    { readings with
      next := readings.following readings.taken readings.next
      taken := readings.taken + 1 })

end Readings

/-- Where the lines of a log go: where they are accepted, or where every line fails with a message.
-/
inductive Destination where
  | accepting
  | failing (message : String)
  deriving DecidableEq, Repr

/-- A line that recording an event brings forth: in the log, or among the error messages. -/
inductive Line where
  | logged (text : String)
  | complaint (text : String)
  deriving DecidableEq, Repr

/-- What recording an event comes to: a line, or an error that is passed on. -/
abbrev Recorded : Type := Except String Line

/-- A structured log: its trace, where its lines go, how many levels of nesting can be followed in
the fields of an event, and when the names under way were started. -/
structure Journal where
  traceId : String
  destination : Destination := .accepting
  reach : Nat
  timers : List (String × Double) := []

namespace Journal

/-- A log with a trace that is given, unless it is missing or empty, or else a fresh one. -/
def create (reach : Nat) (fresh : String) (given : Option String) (destination : Destination) :
    Journal where
  traceId :=
    match given with
    | some traceId => if traceId.isEmpty then fresh else traceId
    | none => fresh
  destination := destination
  reach := reach

/-- The log that is shared, and whether it was there before: a new one is made when there is none or
when another trace is asked for. -/
def obtain (shared : Option Journal) (reach : Nat) (fresh : String) (given : Option String) :
    Journal × Bool :=
  match shared with
  | none => (create reach fresh given .accepting, false)
  | some journal =>
    match given with
    | none => (journal, true)
    | some traceId =>
      if traceId.isEmpty || traceId = journal.traceId then (journal, true)
      else (create reach fresh given .accepting, false)

/-- The line about an event that could not be written down. -/
def failureLine (journal : Journal) (time : Double) (message : String) : Line :=
  .complaint (Json.toLine (.object
    [("event", .string "logger_internal_error"), ("trace_id", .string journal.traceId),
     ("timestamp", .real time), ("error", .string message)]))

/-- What an event with these fields comes to, which get the trace and the time; a failure takes one
more reading. -/
def emit (journal : Journal) (fields : List EventField) (readings : Readings) :
    Recorded × Readings :=
  let (time, readings) := readings.take
  let fields := setPayload "trace_id" (.json (.string journal.traceId)) fields
  let fields := setPayload "timestamp" (.json (.real time)) fields
  let failure : String → Recorded × Readings := fun message =>
    let (time, readings) := readings.take
    (.ok (journal.failureLine time message), readings)
  match writableFields journal.reach fields with
  | .error (.broken error) => (.error error, readings)
  | .error (.unwritable cause) => failure cause.message
  | .ok fields =>
    match journal.destination with
    | .failing message => failure message
    | .accepting => (.ok (.logged (Json.toLine (.object fields))), readings)

/-- The time between two readings in thousandths, to one place. -/
def duration (start now : Double) : Double :=
  ((now - start) * Double.ofRat 1000).toTenths

/-- The timers with the one of a name set. -/
def setTimer (name : String) (time : Double) (timers : List (String × Double)) :
    List (String × Double) :=
  (name, time) :: timers.filter fun timer => decide (timer.1 ≠ name)

/-- The timers without the one of a name. -/
def dropTimer (name : String) (timers : List (String × Double)) :
    List (String × Double) :=
  timers.filter fun timer => decide (timer.1 ≠ name)

/-- An event recorded: the log and the readings after it, and what the event comes to. -/
def record (journal : Journal) (event : Event) (readings : Readings) :
    Journal × Recorded × Readings :=
  match event.kind with
  | .start name =>
    let (time, readings) := readings.take
    let journal := { journal with timers := setTimer name time journal.timers }
    let (recorded, readings) := journal.emit event.fields readings
    (journal, recorded, readings)
  | .summary name =>
    match journal.timers.lookup name with
    | some start =>
      let (time, readings) := readings.take
      let journal := { journal with timers := dropTimer name journal.timers }
      let extra := setPayload "duration_ms" (.json (.real (duration start time))) event.extra
      let (recorded, readings) := journal.emit { event with extra := extra }.fields readings
      (journal, recorded, readings)
    | none =>
      let (recorded, readings) := journal.emit event.fields readings
      (journal, recorded, readings)
  | _ =>
    let (recorded, readings) := journal.emit event.fields readings
    (journal, recorded, readings)

/-- Events recorded one after another, with what they come to in order. -/
def recordAll (journal : Journal) : List Event → Readings → Journal × List Recorded × Readings
  | [], readings => (journal, [], readings)
  | event :: rest, readings =>
    let (journal, recorded, readings) := journal.record event readings
    let (journal, others, readings) := journal.recordAll rest readings
    (journal, recorded :: others, readings)

end Journal

end OpeningHours
