import OpeningHours.Calendar.Zone
import OpeningHours.Settings

/-
Clocks that tell civil time. A clock either stands still or shows the time of a zone at the instant
that its source of the present tells when the clock is read; zone and source are settled when the
clock is built. The default clock is built for the zone in the settings when it is first needed, and
kept until it is forgotten, whatever becomes of the settings in the meantime; the time that it shows
is not kept. A lookup of its zone that fails leaves nothing behind.
-/

namespace OpeningHours

open Text

/-- Why a clock cannot tell the time. -/
inductive ClockFault where
  | emptyZoneName (given : Option String)
  | unknownZone (name : String)
  | outsideCalendar
  deriving DecidableEq, Repr

namespace ClockFault

/-- A name that may be missing, as a message shows it. -/
def shownName : Option String → String
  | some name => Quoted.ofString name
  | none => "None"

/-- What is said of a fault. -/
def message : ClockFault → String
  | emptyZoneName given => "Cannot resolve timezone " ++ shownName given ++ ": empty timezone name"
  | unknownZone name =>
    "Cannot resolve timezone " ++ Quoted.ofString name ++ ": timezone data not found"
  | outsideCalendar => "date value out of range"

end ClockFault

/-- What a name, white space at its ends apart, stands for among the zones that are known. -/
def findZone {Zone : Type} (named? : String → Option Zone) (name : Option String) :
    Except ClockFault Zone :=
  match nonblank? name with
  | none => .error (.emptyZoneName name)
  | some known =>
    match named? known with
    | some zone => .ok zone
    | none => .error (.unknownZone known)

/-- A zone that is known: its name, and its distance from universal time in seconds at every second
of universal time. -/
structure KnownZone where
  name : String
  offsetAt : Int → Int

/-- What is known of the zone with a name. -/
def knownZone? (zones : Calendar.ZoneTable) (name : String) : Option KnownZone :=
  (zones name).map fun offsetAt => ⟨name, offsetAt⟩

/-- The zone that a name stands for. -/
def loadZone (zones : Calendar.ZoneTable) (name : Option String) : Except ClockFault KnownZone :=
  findZone (knownZone? zones) name

/-- The civil time in a zone at an instant. -/
def civilTimeIn (zone : KnownZone) (instant : Calendar.Instant) : Except ClockFault CivilTime :=
  (Calendar.civilTimeAt? zone.offsetAt instant).elim (.error .outsideCalendar) .ok

/-! ### The program and its surroundings -/

/-- A line for the log of the program's own workings. -/
inductive Notice where
  | clockBuilt (zoneName : String)
  | unrecognizedText (text : String)
  deriving DecidableEq, Repr

/-- What a notice says. -/
def Notice.message : Notice → String
  | clockBuilt zoneName => "civil clock timezone=" ++ zoneName
  | unrecognizedText text => "unrecognized hours text: " ++ Quoted.ofString text

/-- Where a clock takes the present instant from: from the system, whose time goes on by itself, or
from a source that tells one instant at all times. -/
inductive PresentSource where
  | system
  | still (instant : Calendar.Instant)
  deriving DecidableEq, Repr

/-- The instant that a source tells at a time of the system. -/
def PresentSource.tell (source : PresentSource) (systemTime : Calendar.Instant) :
    Calendar.Instant :=
  match source with
  | system => systemTime
  | still instant => instant

/-- A clock for a zone, with its source of the present. -/
structure ZoneClock where
  zone : KnownZone
  source : PresentSource

/-- The civil time that a clock for a zone shows at a time of the system. -/
def ZoneClock.read (clock : ZoneClock) (systemTime : Calendar.Instant) :
    Except ClockFault CivilTime :=
  civilTimeIn clock.zone (clock.source.tell systemTime)

/-- What the program's answers depend on besides the question: the environment, the time of the
system, the source that clocks take the present from unless they are given another one, and the
default clock, if it is kept. -/
structure Surroundings where
  environment : Environment
  systemTime : Calendar.Instant
  source : PresentSource := .system
  defaultClock : Option ZoneClock := none

namespace Surroundings

/-- The present instant. -/
def present (surroundings : Surroundings) : Calendar.Instant :=
  surroundings.source.tell surroundings.systemTime

/-- The default clock, which is built and kept unless it has been kept already. Building it is noted
before its zone is looked up, so a failure is noted too. -/
def useDefaultClock (zones : Calendar.ZoneTable) (surroundings : Surroundings) :
    Except ClockFault ZoneClock × List Notice × Surroundings :=
  match surroundings.defaultClock with
  | some clock => (.ok clock, [], surroundings)
  | none =>
    let name := (Settings.resolve surroundings.environment none).timezone
    match loadZone zones (some name) with
    | .ok zone =>
      let clock : ZoneClock := ⟨zone, surroundings.source⟩
      (.ok clock, [.clockBuilt name], { surroundings with defaultClock := some clock })
    | .error fault => (.error fault, [.clockBuilt name], surroundings)

/-- The default clock is no longer kept. -/
def forgetDefaultClock (surroundings : Surroundings) : Surroundings :=
  { surroundings with defaultClock := none }

end Surroundings

/-! ### Clocks -/

/-- A clock to judge hours by. -/
inductive Clock where
  | standing (civilTime : CivilTime)
  | ofZone (clock : ZoneClock)
  | default

namespace Clock

/-- The civil time that a clock shows, with what the reading leaves in the log and behind it. -/
def read (clock : Clock) (zones : Calendar.ZoneTable) (surroundings : Surroundings) :
    Except ClockFault CivilTime × List Notice × Surroundings :=
  match clock with
  | standing civilTime => (.ok civilTime, [], surroundings)
  | ofZone clock => (clock.read surroundings.systemTime, [], surroundings)
  | default =>
    match surroundings.useDefaultClock zones with
    | (.ok clock, notices, after) => (clock.read after.systemTime, notices, after)
    | (.error fault, notices, after) => (.error fault, notices, after)

end Clock

end OpeningHours
