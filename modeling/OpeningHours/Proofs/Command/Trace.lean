import OpeningHours.Proofs.Command.Failure

/-
The trace that a run leaves behind. A run that ends with a report has recorded its start and then
either the one error for which it came to nothing, or for each of its texts in turn an evaluation,
with a warning just before it where that is due, and a summary in the end. The chronicle of the
texts is described without regard to how it is made; that a run leaves such a chronicle is shown by
induction over its texts, and the numbers in the summary are counted off the chronicle itself.
-/

namespace OpeningHours.Command

open Text

/-! ### The chronicle of the texts -/

/-- The event that tells what a text comes to and whether it is open at a civil time. -/
def evaluationOf (civilTime : CivilTime) (text : String) : Event :=
  ⟨.evaluation (some text) (Schedule.ofText (some text)).kind.name
    ((Listing.statusAt (some text) civilTime).map (·.isOpen)), []⟩

/-- The event that warns of a text. -/
def warningOf (text : String) : Event :=
  ⟨.warning "parser" "unrecognized hours text", [("hours", Event.text text)]⟩

/-- A warning of the text is due: unrecognized texts are to be recorded, and it is one that is not
blank. -/
def Warrants (environment : Environment) (text : String) : Prop :=
  environment.logsUnrecognized = true ∧
    (Schedule.ofText (some text)).kind = .unrecognized ∧ allBlank text.toList = false

/-- The events about texts that are judged at a civil time, one text after another: an evaluation of
each, right behind a warning if one is due. -/
inductive Chronicle (environment : Environment) (civilTime : CivilTime) :
    List String → List Event → Prop
  | done : Chronicle environment civilTime [] []
  | quiet {text : String} {texts : List String} {events : List Event}
      (notDue : ¬ Warrants environment text)
      (onward : Chronicle environment civilTime texts events) :
      Chronicle environment civilTime (text :: texts) (evaluationOf civilTime text :: events)
  | warned {text : String} {texts : List String} {events : List Event}
      (due : Warrants environment text)
      (onward : Chronicle environment civilTime texts events) :
      Chronicle environment civilTime (text :: texts)
        (warningOf text :: evaluationOf civilTime text :: events)

variable {zones : Calendar.ZoneTable} {environment : Environment} {now : Calendar.Instant}
  {files : Files} {arguments : Arguments} {civilTime : CivilTime}

theorem kind_eq_unrecognized_iff (schedule : Schedule) :
    schedule.kind = .unrecognized ↔ schedule = .unrecognized := by
  cases schedule <;> simp [Schedule.kind]

/-- The events about one text that is judged. -/
theorem events_of_judgement (environment : Environment) (civilTime : CivilTime) (text : String) :
    (Warrants environment text ∧
      (Judgement.of civilTime text).events environment.logsUnrecognized =
        [warningOf text, evaluationOf civilTime text]) ∨
    (¬ Warrants environment text ∧
      (Judgement.of civilTime text).events environment.logsUnrecognized =
        [evaluationOf civilTime text]) := by
  have due : (environment.logsUnrecognized &&
      decide ((Judgement.of civilTime text).schedule = .unrecognized) &&
      !allBlank (Judgement.of civilTime text).hours.toList) = true ↔
        Warrants environment text := by
    rw [Warrants, kind_eq_unrecognized_iff, Bool.and_eq_true, Bool.and_eq_true, decide_eq_true_eq,
      Bool.not_eq_true', and_assoc]
    rfl
  by_cases warrants : Warrants environment text
  · refine Or.inl ⟨warrants, ?_⟩
    rw [Judgement.events, if_pos (due.mpr warrants)]
    rfl
  · refine Or.inr ⟨warrants, ?_⟩
    rw [Judgement.events, if_neg fun warned => warrants (due.mp warned)]
    rfl

/-- Judging texts one after another leaves their chronicle behind. -/
theorem chronicle_of_judgements (environment : Environment) (civilTime : CivilTime)
    (texts : List String) :
    Chronicle environment civilTime texts
      ((texts.map (Judgement.of civilTime)).flatMap
        (Judgement.events environment.logsUnrecognized)) := by
  induction texts with
  | nil => exact .done
  | cons text texts inductionHypothesis =>
    rw [List.map_cons, List.flatMap_cons]
    rcases events_of_judgement environment civilTime text with ⟨due, events⟩ | ⟨notDue, events⟩
    · rw [events]
      exact .warned due inductionHypothesis
    · rw [events]
      exact .quiet notDue inductionHypothesis

/-! ### Counting evaluations -/

/-- Whether the text of an evaluation is open; other events tell nothing of the kind. -/
def openness? (event : Event) : Option (Option Bool) :=
  match event.kind with
  | .evaluation _ _ isOpen => some isOpen
  | _ => none

/-- What the evaluations among the events tell, in order. -/
def opennesses (events : List Event) : List (Option Bool) :=
  events.filterMap openness?

/-- The summary of the events: the numbers of all evaluations, of the open ones among them and of
those that tell nothing. -/
def tally (events : List Event) : Event :=
  ⟨.summary runName,
    [countField "total" (opennesses events).length,
     countField "open" ((opennesses events).count (some true)),
     countField "unknown" ((opennesses events).count none)]⟩

/-- A chronicle holds one evaluation of each text and no other. -/
theorem Chronicle.opennesses_eq {texts : List String} {events : List Event}
    (chronicle : Chronicle environment civilTime texts events) :
    opennesses events =
      texts.map fun text => (Listing.statusAt (some text) civilTime).map (·.isOpen) := by
  induction chronicle with
  | done => rfl
  | @quiet text texts events _ _ inductionHypothesis =>
    rw [List.map_cons, ← inductionHypothesis]
    rfl
  | @warned text texts events _ _ inductionHypothesis =>
    rw [List.map_cons, ← inductionHypothesis]
    rfl

theorem isKnownOpen_eq (status : Option OpenStatus) :
    OpenStatus.isKnownOpen status = (status.map (·.isOpen) == some true) := by
  cases status with
  | none => rfl
  | some status => cases isOpen : status.isOpen <;> simp [OpenStatus.isKnownOpen, isOpen]

theorem isNone_eq (status : Option OpenStatus) :
    status.isNone = (status.map (·.isOpen) == none) := by
  cases status <;> rfl

/-- The summary of a run counts the evaluations in the chronicle of its texts. -/
theorem summary_eq_tally {texts : List String} {events : List Event}
    (chronicle : Chronicle environment civilTime texts events) :
    summaryEvent (texts.map (Judgement.of civilTime)) = tally events := by
  rw [summaryEvent, tally, chronicle.opennesses_eq, List.length_map, List.length_map, List.count,
    List.count, List.countP_map, List.countP_map, List.countP_map, List.countP_map]
  have isOpen : (fun judgement : Judgement => OpenStatus.isKnownOpen judgement.status) ∘
      Judgement.of civilTime =
        (· == some true) ∘ fun text => (Listing.statusAt (some text) civilTime).map (·.isOpen) :=
    funext fun text => isKnownOpen_eq _
  have isUnknown : (fun judgement : Judgement => judgement.status.isNone) ∘
      Judgement.of civilTime =
        (· == none) ∘ fun text => (Listing.statusAt (some text) civilTime).map (·.isOpen) :=
    funext fun text => isNone_eq _
  rw [isOpen, isUnknown]

/-! ### The trace of a run -/

/-- Texts with their statuses at a civil time. -/
def rowsOf (civilTime : CivilTime) (texts : List String) : List (String × Option OpenStatus) :=
  texts.map fun text => (text, Listing.statusAt (some text) civilTime)

section

variable (zones : Calendar.ZoneTable) (environment : Environment) (now : Calendar.Instant)
  (files : Files) (arguments : Arguments)

/-- The name of the error for which a run comes to nothing. -/
inductive FailsFor : String → Prop
  | clock (missing : ZoneMissing zones environment arguments) : FailsFor "clock"
  | instant (known : ¬ ZoneMissing zones environment arguments)
      (unusable : InstantUnusable zones environment arguments) : FailsFor "at"
  | file (known : ¬ ZoneMissing zones environment arguments)
      (usable : ¬ InstantUnusable zones environment arguments)
      (unreadable : FileUnreadable files arguments) : FailsFor "file"

/-- What a run leaves behind that comes to nothing: its start, one error, and nothing printed. -/
structure FailureTrace (report : Report) : Prop where
  exitCode : report.exitCode = 2
  silent : report.output = ""
  events : ∃ name message extra, FailsFor zones environment files arguments name ∧
    report.events = [startEvent environment arguments, ⟨.error name message, extra⟩]

/-- What a run leaves behind that judges texts at a civil time: its start, the chronicle of the
texts, their summary, and a printed row for each evaluation. The rows stand in the order of the
texts unless they are to be sorted. -/
structure CompletionTrace (civilTime : CivilTime) (lines : List String) (chronicle : List Event)
    (rows : List (String × Option OpenStatus)) (report : Report) : Prop where
  exitCode : report.exitCode = 0
  settles : Settles zones environment now arguments civilTime
  fileTexts : FileTexts files arguments.file lines
  isChronicle : Chronicle environment civilTime (arguments.texts ++ lines) chronicle
  events : report.events = startEvent environment arguments :: chronicle ++ [tally chronicle]
  rows_perm : rows.Perm (rowsOf civilTime (arguments.texts ++ lines))
  rows_unsorted : arguments.sort = false → rows = rowsOf civilTime (arguments.texts ++ lines)
  rows_length : rows.length = (opennesses chronicle).length
  output : report.output = printed arguments.json rows

end

/-- What is left behind by a run that has its civil time and its texts. -/
theorem completionTrace_of_gathered {lines : List String}
    (settles : Settles zones environment now arguments civilTime)
    (gathered : FileTexts files arguments.file lines) :
    ∃ chronicle rows, CompletionTrace zones environment now files arguments civilTime lines
      chronicle rows
      (completed (startEvent environment arguments) environment.logsUnrecognized arguments.sort
        arguments.json civilTime (arguments.texts ++ lines)) := by
  have chronicle := chronicle_of_judgements environment civilTime (arguments.texts ++ lines)
  have judged : ((arguments.texts ++ lines).map (Judgement.of civilTime)).map
      (fun judgement => (judgement.hours, judgement.status)) =
        rowsOf civilTime (arguments.texts ++ lines) :=
    List.map_map
  have evaluated : (opennesses _).length = (arguments.texts ++ lines).length :=
    (congrArg List.length chronicle.opennesses_eq).trans (List.length_map _)
  have order : ∃ rows, rows.Perm (rowsOf civilTime (arguments.texts ++ lines)) ∧
      (arguments.sort = false → rows = rowsOf civilTime (arguments.texts ++ lines)) ∧
      rows = if arguments.sort then
          OpenStatus.sortBy (·.2) (rowsOf civilTime (arguments.texts ++ lines))
        else rowsOf civilTime (arguments.texts ++ lines) := by
    cases arguments.sort with
    | true =>
      refine ⟨_, List.mergeSort_perm _ _, fun unsorted => ?_, rfl⟩
      cases unsorted
    | false => exact ⟨_, List.Perm.refl _, fun _ => rfl, rfl⟩
  obtain ⟨rows, perm, unsorted, isOutput⟩ := order
  refine ⟨_, rows, rfl, settles, gathered, chronicle, ?_, perm, unsorted, ?_, ?_⟩
  · rw [← summary_eq_tally chronicle]
    rfl
  · rw [perm.length_eq, evaluated, rowsOf, List.length_map]
  · rw [isOutput, ← judged]
    rfl

/-- A command line that is accepted and answered leaves the trace behind that its exit code tells:
that of a failure with exit code two, and that of all its texts with exit code zero. -/
theorem report_leaves_trace {line : List String} {report : Report}
    (accepted : Request.ofArguments line = .ok (.judge arguments))
    (returned : execute zones environment now files line = .ok (.report report)) :
    FailureTrace zones environment files arguments report ∨
      ∃ civilTime lines chronicle rows, CompletionTrace zones environment now files arguments
        civilTime lines chronicle rows report := by
  have ran : run zones environment now files arguments = .ok report := by
    rw [execute_of_accepted accepted] at returned
    cases result : run zones environment now files arguments with
    | error breakdown =>
      rw [result] at returned
      cases returned
    | ok other =>
      rw [result] at returned
      cases returned
      rfl
  have course := run_course zones environment now files arguments
  rw [ran] at course
  cases course with
  | zoneMissing missing => exact Or.inl ⟨rfl, rfl, "clock", _, _, .clock missing, rfl⟩
  | instantMalformed known asked nonempty malformed =>
    have unusable := instantUnusable_of_malformed known asked nonempty malformed
    exact Or.inl ⟨rfl, rfl, "at", _, _, .instant (not_zoneMissing known) unusable, rfl⟩
  | fileUnreadable settles asked noZero unread =>
    have unreadable := fileUnreadable_of_unread asked unread
    exact Or.inl ⟨rfl, rfl, "file", _, _,
      .file settles.zone_known settles.instant_usable unreadable, rfl⟩
  | judged settles gathered =>
    obtain ⟨chronicle, rows, trace⟩ := completionTrace_of_gathered settles gathered
    exact Or.inr ⟨_, _, chronicle, rows, trace⟩

/-- Two texts judged in universal time, one of them not recognized and to be recorded. -/
theorem two_texts_leave_trace :
    Request.ofArguments ["24/7", "soon", "--timezone", "UTC"] =
        .ok (.judge { texts := ["24/7", "soon"], timezone := some "UTC" }) ∧
      ∃ report,
        execute Calendar.Zone.table { logUnrecognized := some "on" } ⟨0⟩ []
            ["24/7", "soon", "--timezone", "UTC"] =
          .ok (.report report) ∧
        report.exitCode = 0 ∧ report.events.length = 5 ∧
        (FailureTrace Calendar.Zone.table { logUnrecognized := some "on" } []
            { texts := ["24/7", "soon"], timezone := some "UTC" } report ∨
          ∃ civilTime lines chronicle rows,
            CompletionTrace Calendar.Zone.table { logUnrecognized := some "on" } ⟨0⟩ []
              { texts := ["24/7", "soon"], timezone := some "UTC" } civilTime lines chronicle rows
              report) := by
  have accepted : Request.ofArguments ["24/7", "soon", "--timezone", "UTC"] =
      .ok (.judge { texts := ["24/7", "soon"], timezone := some "UTC" }) := by
    decide
  exact ⟨accepted, _, rfl, rfl, rfl, report_leaves_trace accepted rfl⟩

end OpeningHours.Command
