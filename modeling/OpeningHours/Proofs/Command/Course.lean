import OpeningHours.Command.Run
import OpeningHours.Proofs.Text.Strip

/-
The courses that a run may take. Its zone is looked up by the very name in the settings, which has
no white space at its ends. After that the run comes to nothing because of its zone, its instant or
its file, or it breaks off, or it judges its texts at one civil time; which of these happens is told
by conditions on what the run was given, and not by the steps it takes. What is true of all runs is
proved by going through the courses.
-/

namespace OpeningHours

open Text

/-! ### The zone -/

theorem nonblank?_of_nonblank? {given : Option String} {known : String}
    (found : nonblank? given = some known) : nonblank? (some known) = some known := by
  cases given with
  | none => cases found
  | some text =>
    rw [nonblank?] at found
    split at found
    · cases found
    · next unblank =>
      obtain rfl := Option.some.inj found
      have left : ¬ allBlank (trimmed text).toList = true := by
        rw [trimmed, String.toList_ofList, allBlank_strip (Bool.not_eq_true _ ▸ unblank)]
        exact Bool.false_ne_true
      rw [nonblank?, if_neg left, trimmed_trimmed]

/-- The name of the zone in the settings is not blank and has no white space at its ends. -/
theorem Settings.nonblank?_timezone (environment : Environment) (timezone : Option String) :
    nonblank? (some (Settings.resolve environment timezone).timezone) =
      some (Settings.resolve environment timezone).timezone := by
  rw [Settings.resolve]
  cases given : nonblank? timezone with
  | some name => exact nonblank?_of_nonblank? given
  | none =>
    rw [Option.getD_none, Environment.zoneName]
    cases set : nonblank? environment.timezone with
    | some name => exact nonblank?_of_nonblank? set
    | none =>
      have standard : nonblank? (some defaultTimezone) = some defaultTimezone := by decide
      exact standard

namespace Command

/-- The name of the zone of a run. -/
def Arguments.zoneName (arguments : Arguments) (environment : Environment) : String :=
  (Settings.resolve environment arguments.timezone).timezone

theorem findZone_of_nonblank {Zone : Type} {name : String}
    (known : nonblank? (some name) = some name) (named? : String → Option Zone) :
    findZone named? (some name) =
      match named? name with
      | some zone => .ok zone
      | none => .error (.unknownZone name) := by
  cases found : named? name <;> simp only [findZone, known, found]

/-! ### What a run is given -/

/-- The instant that a run is about: the one that is asked for, or the present one where the text is
missing or empty. -/
inductive Concerns (now : Calendar.Instant) : Option String → Calendar.Instant → Prop
  | missing : Concerns now none now
  | empty : Concerns now (some "") now
  | asked {given : String} {moment : Calendar.DateTime} (nonempty : given ≠ "")
      (read : Calendar.DateTime.ofText given = .ok moment) :
      Concerns now (some given) moment.instant

/-- The texts that the choice of a file adds to a run: none without a file, and else the lines of
the file at a path, if it is there and can be decoded. -/
inductive FileTexts (files : Files) : FileChoice → List String → Prop
  | absent : FileTexts files .absent []
  | lines {path : String} {octets : List UInt8} {decoded : List Char}
      (noZero : path.toList.contains (Char.ofNat 0) = false)
      (found : files.octetsAt (.ofText path.toList) = .ok octets)
      (decodes : Utf8.decode octets = .ok decoded) :
      FileTexts files (.at path) ((contentLines decoded).map String.ofList)

/-- A file is asked for by what is no path. -/
inductive NoPath : FileChoice → BreakdownCause → Prop
  | withoutPath : NoPath .withoutPath .withoutPath
  | zeroInPath {path : String} (zero : path.toList.contains (Char.ofNat 0) = true) :
      NoPath (.at path) .zeroInPath

section

variable (zones : Calendar.ZoneTable) (environment : Environment) (now : Calendar.Instant)
  (files : Files) (arguments : Arguments)

/-- The civil time of a run. -/
def Settles (civilTime : CivilTime) : Prop :=
  ∃ offsetAt instant, zones (arguments.zoneName environment) = some offsetAt ∧
    Concerns now arguments.instant instant ∧
    Calendar.civilTimeAt? offsetAt instant = some civilTime

/-- The event with which a run starts. -/
def startEvent : Event :=
  ⟨.start runName, [("timezone", Event.text (arguments.zoneName environment))]⟩

/-- What may become of a run. -/
inductive Course : Except Breakdown Report → Prop
  | zoneMissing (missing : zones (arguments.zoneName environment) = none) :
      Course (.ok (failed (startEvent environment arguments) "clock"
        (ClockFault.unknownZone (arguments.zoneName environment)).message []
        (ClockFault.unknownZone (arguments.zoneName environment)).message))
  | instantMalformed {offsetAt : Int → Int} {given : String} {fault : Calendar.Fault}
      (known : zones (arguments.zoneName environment) = some offsetAt)
      (asked : arguments.instant = some given) (nonempty : given ≠ "")
      (malformed : Calendar.DateTime.ofText given = .error fault) :
      Course (.ok (failed (startEvent environment arguments) "at" fault.message
        [("value", Event.text given)] ("invalid --at value " ++ Quoted.ofString given)))
  | outsideCalendar {offsetAt : Int → Int} {instant : Calendar.Instant}
      (known : zones (arguments.zoneName environment) = some offsetAt)
      (concerns : Concerns now arguments.instant instant)
      (outside : Calendar.civilTimeAt? offsetAt instant = none) :
      Course (.error ⟨.outsideCalendar, [startEvent environment arguments]⟩)
  | noPath {civilTime : CivilTime} {cause : BreakdownCause}
      (settles : Settles zones environment now arguments civilTime)
      (noPath : NoPath arguments.file cause) :
      Course (.error ⟨cause, [startEvent environment arguments]⟩)
  | fileUnreadable {civilTime : CivilTime} {path : String} {fault : FileFault}
      (settles : Settles zones environment now arguments civilTime)
      (asked : arguments.file = .at path)
      (noZero : path.toList.contains (Char.ofNat 0) = false)
      (unread : files.textsAt (.ofText path.toList) = .error fault) :
      Course (.ok (failed (startEvent environment arguments) "file" fault.message []
        ("cannot read " ++ arguments.file.plainPath ++ ": " ++ fault.message)))
  | judged {civilTime : CivilTime} {lines : List String}
      (settles : Settles zones environment now arguments civilTime)
      (gathered : FileTexts files arguments.file lines) :
      Course (.ok (completed (startEvent environment arguments) environment.logsUnrecognized
        arguments.sort arguments.json civilTime (arguments.texts ++ lines)))

/-! ### When a run comes to nothing -/

/-- Nothing is known of the zone of the run. -/
def ZoneMissing : Prop :=
  zones (arguments.zoneName environment) = none

/-- An instant is asked for by a text that denotes none, or none that has a civil time in the zone
of the run. -/
def InstantUnusable : Prop :=
  ∃ offsetAt given, zones (arguments.zoneName environment) = some offsetAt ∧
    arguments.instant = some given ∧ given ≠ "" ∧
    ∀ moment, Calendar.DateTime.ofText given = .ok moment →
      Calendar.civilTimeAt? offsetAt moment.instant = none

/-- A file is asked for and yields no texts. -/
def FileUnreadable : Prop :=
  ∀ lines, ¬ FileTexts files arguments.file lines

/-- The instant of the run has no civil time in its zone, or a file is asked for by no path. -/
def BreaksOff : Prop :=
  ∃ offsetAt instant, zones (arguments.zoneName environment) = some offsetAt ∧
    Concerns now arguments.instant instant ∧
    (Calendar.civilTimeAt? offsetAt instant = none ∨ ∃ cause, NoPath arguments.file cause)

end

/-! ### Every run takes one of the courses -/

/-- What can become of settling the civil time in the zone of a name without white space at its
ends. -/
theorem settleTime_cases (zones : Calendar.ZoneTable) {name : String}
    (trim : nonblank? (some name) = some name) (asked : Option String) (now : Calendar.Instant) :
    (zones name = none ∧ settleTime zones name asked now = .error (.clock (.unknownZone name))) ∨
    ∃ offsetAt, zones name = some offsetAt ∧
      ((∃ given fault, asked = some given ∧ given ≠ "" ∧
          Calendar.DateTime.ofText given = .error fault ∧
          settleTime zones name asked now = .error (.instant given fault)) ∨
        ∃ instant, Concerns now asked instant ∧
          settleTime zones name asked now =
            match Calendar.civilTimeAt? offsetAt instant with
            | some civilTime => .ok civilTime
            | none => .error .outsideCalendar) := by
  -- Nothing here depends on how civil times are computed.
  obtain ⟨civilTimeAt, same⟩ : ∃ civilTimeAt, civilTimeAt = Calendar.civilTimeAt? := ⟨_, rfl⟩
  rw [settleTime, findZone_of_nonblank trim, ← same]
  cases known : zones name with
  | none => exact Or.inl ⟨rfl, rfl⟩
  | some offsetAt =>
    refine Or.inr ⟨offsetAt, rfl, ?_⟩
    cases asked with
    | none => exact Or.inr ⟨now, .missing, rfl⟩
    | some given =>
      by_cases empty : given = ""
      · subst empty
        exact Or.inr ⟨now, .empty, rfl⟩
      · have written : given.isEmpty = false := by simpa using empty
        simp only [written]
        cases read : Calendar.DateTime.ofText given with
        | error fault => exact Or.inl ⟨given, fault, rfl, empty, read, rfl⟩
        | ok moment => exact Or.inr ⟨moment.instant, .asked empty read, rfl⟩

theorem FileTexts.of_textsAt {files : Files} {path : String} {lines : List String}
    (noZero : path.toList.contains (Char.ofNat 0) = false)
    (read : files.textsAt (.ofText path.toList) = .ok lines) :
    FileTexts files (.at path) lines := by
  rw [Files.textsAt] at read
  split at read
  · cases read
  · next octets found =>
    split at read
    · cases read
    · next decoded decodes =>
      obtain rfl := Except.ok.inj read
      exact .lines noZero found decodes

/-- What can become of the texts of a run. -/
theorem gatherTexts_cases (files : Files) (arguments : Arguments) :
    (∃ cause, NoPath arguments.file cause ∧
      gatherTexts arguments.texts arguments.file files = .error cause) ∨
    (∃ path fault, arguments.file = .at path ∧ path.toList.contains (Char.ofNat 0) = false ∧
      files.textsAt (.ofText path.toList) = .error fault ∧
      gatherTexts arguments.texts arguments.file files = .ok (.error fault)) ∨
    ∃ lines, FileTexts files arguments.file lines ∧
      gatherTexts arguments.texts arguments.file files = .ok (.ok (arguments.texts ++ lines)) := by
  cases asked : arguments.file with
  | absent => exact Or.inr (Or.inr ⟨[], .absent, by rw [gatherTexts, List.append_nil]⟩)
  | withoutPath => exact Or.inl ⟨_, .withoutPath, rfl⟩
  | «at» path =>
    rw [gatherTexts]
    split
    · next zero => exact Or.inl ⟨_, .zeroInPath zero, rfl⟩
    · next noZero =>
      rw [Bool.not_eq_true] at noZero
      cases read : files.textsAt (.ofText path.toList) with
      | error fault => exact Or.inr (Or.inl ⟨path, fault, rfl, noZero, read, rfl⟩)
      | ok lines => exact Or.inr (Or.inr ⟨lines, .of_textsAt noZero read, rfl⟩)

/-- Every run takes one of the courses. -/
theorem run_course (zones : Calendar.ZoneTable) (environment : Environment)
    (now : Calendar.Instant) (files : Files) (arguments : Arguments) :
    Course zones environment now files arguments (run zones environment now files arguments) := by
  rcases settleTime_cases zones (Settings.nonblank?_timezone environment arguments.timezone)
      arguments.instant now with
    ⟨missing, settled⟩ |
      ⟨offsetAt, known, ⟨given, fault, asked, nonempty, malformed, settled⟩ |
        ⟨instant, concerns, settled⟩⟩
  all_goals simp only [run]
  · rw [settled]
    exact .zoneMissing missing
  · rw [settled]
    exact .instantMalformed known asked nonempty malformed
  · cases civil : Calendar.civilTimeAt? offsetAt instant with
    | none =>
      rw [settled, civil]
      exact .outsideCalendar known concerns civil
    | some civilTime =>
      have settles : Settles zones environment now arguments civilTime :=
        ⟨offsetAt, instant, known, concerns, civil⟩
      rw [settled, civil]
      rcases gatherTexts_cases files arguments with
        ⟨cause, noPath, gathered⟩ | ⟨path, fault, asked, noZero, unread, gathered⟩ |
          ⟨lines, fileTexts, gathered⟩
      · simp only [gathered]
        exact .noPath settles noPath
      · simp only [gathered]
        exact .fileUnreadable settles asked noZero unread
      · simp only [gathered]
        exact .judged settles fileTexts

end Command

end OpeningHours
