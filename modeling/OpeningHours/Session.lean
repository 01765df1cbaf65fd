import OpeningHours.Command.Run

/-
The state of a program that stays up: its surroundings, the readings of its stopwatch, the
structured log that all its parts share once one of them has asked for it, and the log that is
written to at the moment. The latter is either the shared log, so that what is started in the one is
under way in the other, or one of its own. A command may be run in the midst of all this; it starts
the stopwatch anew and leaves its own log behind as the shared one.
-/

namespace OpeningHours

/-- The log that is written to. -/
structure CurrentLog where
  journal : Journal
  isShared : Bool

/-- The state of the program; its logs can follow so many levels of nesting in the fields of an
event. -/
structure Session where
  surroundings : Surroundings
  readings : Readings
  reach : Nat
  shared : Option Journal := none
  current : Option CurrentLog := none

namespace Session

/-- The session with other surroundings. -/
def withSurroundings (session : Session) (surroundings : Surroundings) : Session :=
  { session with surroundings := surroundings }

/-- The session in another environment. -/
def setEnvironment (session : Session) (environment : Environment) : Session :=
  session.withSurroundings { session.surroundings with environment := environment }

/-- The session with another source of the present, which stands still. Clocks that have been built
keep the source that they have. -/
def setPresent (session : Session) (present : Calendar.Instant) : Session :=
  session.withSurroundings { session.surroundings with source := .still present }

/-- The session with its stopwatch started anew. -/
def restart (session : Session) (readings : Readings) : Session :=
  { session with readings := readings }

/-- A log of its own is written to from now on. -/
def openLog (session : Session) (journal : Journal) : Session :=
  { session with current := some ⟨journal, false⟩ }

/-- The shared log is written to from now on; it is made if need be. Tells the trace of the log, and
whether the log was there before. -/
def openSharedLog (session : Session) (fresh : String) (given : Option String) :
    Session × String × Bool :=
  let (journal, reused) := Journal.obtain session.shared session.reach fresh given
  ({ session with shared := some journal, current := some ⟨journal, true⟩ },
    journal.traceId, reused)

/-- The shared log is no longer shared; if it is written to at the moment it goes on on its own. -/
def dropSharedLog (session : Session) : Session :=
  { session with
    shared := none
    current := session.current.map fun log => { log with isShared := false } }

/-- A run of the command, with the stopwatch started anew. The run makes a shared log of its own,
which takes the place of any other and is still shared when the run is over. Arguments that come to
no run leave no shared log at all. Tells what the events of the run come to in its log. -/
def runCommand (session : Session) (fresh : String) (readings : Readings)
    (files : Command.Files) (arguments : List String) :
    Session × List Recorded × Except Command.Breakdown Command.Outcome :=
  let session := session.dropSharedLog.restart readings
  let surroundings := session.surroundings
  let result :=
    Command.execute Calendar.Zone.table surroundings.environment surroundings.present files
      arguments
  match Command.eventsOf result with
  | none => (session, [], result)
  | some events =>
    let journal := Journal.create session.reach fresh none .accepting
    let (journal, recorded, readings) := journal.recordAll events readings
    ({ session with readings := readings, shared := some journal }, recorded, result)

/-- An event recorded in the log that is written to, and what it comes to. -/
def log (session : Session) (event : Event) : Session × Option Recorded :=
  match session.current with
  | none => (session, none)
  | some current =>
    let (journal, recorded, readings) := current.journal.record event session.readings
    ({ session with
      readings := readings
      shared := if current.isShared then some journal else session.shared
      current := some { current with journal := journal } }, some recorded)

end Session

end OpeningHours
