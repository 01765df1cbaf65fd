import Mathlib.Data.List.Forall2
import OpeningHours.Proofs.Command.Rows
import OpeningHours.Proofs.Status.Wording
import OpeningHours.Proofs.Text.Lines

/-
What a run prints as text tells its rows. Where no text of the command line holds a newline, cutting
the output at its newlines gives one line for each row and nothing else, since neither the lines of
a file nor what is said of a status can hold one. Each line shows how it stands with a text, the
text as it was given, and what is said of its status.
-/

namespace OpeningHours.Command

open Text

variable {zones : Calendar.ZoneTable} {environment : Environment} {now : Calendar.Instant}
  {files : Files} {arguments : Arguments}

/-! ### Rows as lines -/

/-- The line shows the row. Where a text is closed, the next opening stands in brackets at the end
of the line, unless it is not known or the phrase speaks of it. -/
inductive Shows : String → String × Option OpenStatus → Prop
  | unknown (text : String) : Shows ("UNKNOWN  " ++ text) (text, none)
  | isOpen (text : String) {status : OpenStatus} (isOpen : status.isOpen = true) :
      Shows ("OPEN    " ++ text ++ " - " ++ status.phrase) (text, some status)
  | closed (text : String) {status : OpenStatus} (isClosed : status.isOpen = false)
      (nothing : ∀ next ∈ status.nextOpening, next.toList <:+: status.phrase.toList) :
      Shows ("CLOSED  " ++ text ++ " - " ++ status.phrase) (text, some status)
  | opening (text : String) {status : OpenStatus} {next : String}
      (isClosed : status.isOpen = false) (known : status.nextOpening = some next)
      (unspoken : ¬ next.toList <:+: status.phrase.toList) :
      Shows ("CLOSED  " ++ text ++ " - " ++ status.phrase ++ " (" ++ next ++ ")")
        (text, some status)

/-- The empty text is spoken of everywhere, so it is never added. -/
theorem adds_opening_iff {next phrase : String} :
    (!next.isEmpty && !occursIn next.toList phrase.toList) = true ↔
      ¬ next.toList <:+: phrase.toList := by
  rw [Bool.and_eq_true, Bool.not_eq_true', Bool.not_eq_true', ← Bool.not_eq_true,
    ← Bool.not_eq_true, String.isEmpty_iff, occursIn_iff]
  constructor
  · exact And.right
  · refine fun unspoken => ⟨?_, unspoken⟩
    rintro rfl
    exact unspoken List.nil_infix

theorem shows_statusLine (row : String × Option OpenStatus) :
    Shows (statusLine row.1 row.2) row := by
  obtain ⟨text, status⟩ := row
  cases status with
  | none => exact .unknown text
  | some status =>
    obtain ⟨isOpen, phrase, wait, nextOpening⟩ := status
    cases isOpen with
    | true =>
      have shows := @Shows.isOpen text ⟨true, phrase, wait, nextOpening⟩ rfl
      rw [← @String.append_empty ("OPEN    " ++ text ++ " - " ++ phrase)] at shows
      cases nextOpening <;> exact shows
    | false =>
      have closed := @Shows.closed text ⟨false, phrase, wait, nextOpening⟩ rfl
      rw [← @String.append_empty ("CLOSED  " ++ text ++ " - " ++ phrase)] at closed
      cases nextOpening with
      | none => exact closed nofun
      | some next =>
        change Shows ("CLOSED  " ++ text ++ " - " ++ phrase ++
          if !next.isEmpty && !occursIn next.toList phrase.toList then " (" ++ next ++ ")"
          else "") _
        split
        · next added =>
          have opening := @Shows.opening text ⟨false, phrase, wait, some next⟩ next rfl rfl
            (adds_opening_iff.mp added)
          rw [@String.append_assoc _ " (" next, @String.append_assoc _ (" (" ++ next) ")"]
            at opening
          exact opening
        · next skipped =>
          have spoken := Classical.not_not.mp (mt adds_opening_iff.mpr skipped)
          exact closed fun other shown => Option.some.inj shown ▸ spoken

/-- Lines with a newline behind each are cut apart again. -/
theorem splitOn_flatMap_newline {lines : List (List Char)}
    (unbroken : ∀ line ∈ lines, '\n' ∉ line) :
    (lines.flatMap fun line => line ++ ['\n']).splitOn '\n' = lines ++ [[]] := by
  induction lines with
  | nil => rfl
  | cons line lines inductionHypothesis =>
    obtain ⟨first, others⟩ := List.forall_mem_cons.mp unbroken
    rw [List.flatMap_cons, List.append_assoc, List.singleton_append,
      List.splitOn_append_cons_self_of_not_mem first, inductionHypothesis others, List.cons_append]

/-- The lines of an output, each of which ends with a newline, and what is behind the last one. -/
def linesOf (output : String) : List String :=
  (output.toList.splitOn '\n').map String.ofList

/-- Rows that are printed as text are told by lines one by one. -/
theorem printed_text_shows {rows : List (String × Option OpenStatus)}
    (unbroken : ∀ row ∈ rows, '\n' ∉ (statusLine row.1 row.2).toList) :
    ∃ shown, linesOf (printed false rows) = shown ++ [""] ∧ List.Forall₂ Shows shown rows := by
  refine ⟨rows.map fun row => statusLine row.1 row.2, ?_, ?_⟩
  · have lines : (printed false rows).toList =
        (rows.map fun row => (statusLine row.1 row.2).toList).flatMap
          fun line => line ++ ['\n'] := by
      rw [printed, if_neg Bool.false_ne_true, String.toList_ofList, List.flatMap_map]
    have whole : ∀ line ∈ rows.map fun row => (statusLine row.1 row.2).toList, '\n' ∉ line := by
      intro line member
      obtain ⟨row, inRows, rfl⟩ := List.mem_map.mp member
      exact unbroken row inRows
    rw [linesOf, lines, splitOn_flatMap_newline whole, List.map_append, List.map_map]
    simp
  · rw [List.forall₂_map_left_iff]
    exact List.forall₂_same.mpr fun row _ => shows_statusLine row

/-! ### Runs that print text -/

/-- No text of a file holds a newline. -/
theorem FileTexts.newline_not_mem {choice : FileChoice} {lines : List String}
    (gathered : FileTexts files choice lines) : ∀ text ∈ lines, '\n' ∉ text.toList := by
  cases gathered with
  | absent => exact List.forall_mem_nil _
  | lines _ _ _ =>
    intro text member
    obtain ⟨entry, inLines, rfl⟩ := List.mem_map.mp member
    rw [String.toList_ofList]
    exact (isEntry_of_mem_contentLines inLines).unbroken.newline_not_mem

/-- What stands behind the label of a line is on one line if the text is. -/
theorem newline_not_mem_statusLine {text : String} {civilTime : CivilTime}
    (unbroken : '\n' ∉ text.toList) :
    '\n' ∉ (statusLine text (Listing.statusAt (some text) civilTime)).toList := by
  have shows := shows_statusLine (text, Listing.statusAt (some text) civilTime)
  generalize current : Listing.statusAt (some text) civilTime = status at shows ⊢
  generalize statusLine text status = line at shows ⊢
  cases shows with
  | unknown =>
    rw [String.toList_append, List.mem_append, not_or]
    exact ⟨by decide, unbroken⟩
  | isOpen _ isOpen =>
    have staysOnLine := Schedule.staysOnLine_statusAt current
    simp only [String.toList_append, List.mem_append, not_or]
    exact ⟨⟨⟨by decide, unbroken⟩, by decide⟩, staysOnLine.phrase.newline_not_mem⟩
  | closed _ isClosed nothing =>
    have staysOnLine := Schedule.staysOnLine_statusAt current
    simp only [String.toList_append, List.mem_append, not_or]
    exact ⟨⟨⟨by decide, unbroken⟩, by decide⟩, staysOnLine.phrase.newline_not_mem⟩
  | opening _ isClosed known unspoken =>
    have staysOnLine := Schedule.staysOnLine_statusAt current
    simp only [String.toList_append, List.mem_append, not_or]
    exact ⟨⟨⟨⟨⟨⟨by decide, unbroken⟩, by decide⟩, staysOnLine.phrase.newline_not_mem⟩, by decide⟩,
      (staysOnLine.nextOpening _ known).newline_not_mem⟩, by decide⟩

/-- What a run prints as text when it ends with exit code zero tells its rows in order: there is one
line for each evaluation that is recorded, and it shows a text of the run with its status at the
civil time of the run. -/
theorem text_output_tells_rows {line : List String} {report : Report}
    (accepted : Request.ofArguments line = .ok (.judge arguments)) (asks : arguments.json = false)
    (unbroken : ∀ text ∈ arguments.texts, '\n' ∉ text.toList)
    (returned : execute zones environment now files line = .ok (.report report))
    (succeeded : report.exitCode = 0) :
    ∃ civilTime lines shown, Settles zones environment now arguments civilTime ∧
      FileTexts files arguments.file lines ∧
      linesOf report.output = shown ++ [""] ∧
      shown.length = (opennesses report.events).length ∧
      List.Forall₂ Shows shown
        (orderedRows arguments.sort (rowsOf civilTime (arguments.texts ++ lines))) := by
  obtain ⟨civilTime, lines, settles, gathered, rfl⟩ :=
    completed_of_exitCode_zero accepted returned succeeded
  obtain ⟨chronicle, rows, trace⟩ := completionTrace_of_gathered settles gathered
  have whole : ∀ text ∈ arguments.texts ++ lines, '\n' ∉ text.toList :=
    List.forall_mem_append.mpr ⟨unbroken, gathered.newline_not_mem⟩
  have rowsWhole : ∀ row ∈
      orderedRows arguments.sort (rowsOf civilTime (arguments.texts ++ lines)),
      '\n' ∉ (statusLine row.1 row.2).toList := by
    intro row member
    obtain ⟨text, inTexts, rfl⟩ := List.mem_map.mp ((orderedRows_perm _ _).mem_iff.mp member)
    exact newline_not_mem_statusLine (whole text inTexts)
  obtain ⟨shown, read, shows⟩ := printed_text_shows rowsWhole
  refine ⟨civilTime, lines, shown, settles, gathered, ?_, ?_, shows⟩
  · rw [output_of_completed, asks]
    exact read
  · have evaluations : opennesses (startEvent environment arguments :: chronicle ++
        [tally chronicle]) = opennesses chronicle := by
      rw [opennesses, List.filterMap_append]
      exact List.append_nil _
    rw [shows.length_eq, (orderedRows_perm _ _).length_eq, trace.events, evaluations,
      ← trace.rows_length, trace.rows_perm.length_eq]

example : linesOf (printed false (orderedRows true
      (rowsOf ⟨.thursday, 0, by decide⟩ ["9am-5pm", "soon", "24/7"]))) =
    ["OPEN    24/7 - Open 24/7", "CLOSED  9am-5pm - Opens in 9h (9 AM)", "UNKNOWN  soon", ""] := by
  decide +kernel

end OpeningHours.Command
