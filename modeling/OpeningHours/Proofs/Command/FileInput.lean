import OpeningHours.Proofs.Command.Arguments
import OpeningHours.Proofs.Command.Failure
import OpeningHours.Proofs.Text.Lines
import OpeningHours.Proofs.Text.Utf8

/-
Texts from a file are treated as texts of the command line. A file that holds texts on the lines of
a sheet is decoded to the sheet and read as its texts, and from there on a run does not know where
its texts have come from. So a line that asks for the file and a line that names the texts behind
the same options have one outcome: what is printed, what is recorded and the exit code.
-/

namespace OpeningHours.Command

open Text

variable {zones : Calendar.ZoneTable} {environment : Environment} {now : Calendar.Instant}
  {files : Files}

/-- The file at the path is a sheet that holds the texts. -/
structure HoldsTexts (files : Files) (path : String) (texts : List String) : Prop where
  noZero : path.toList.contains (Char.ofNat 0) = false
  sheet : ∃ content, files.octetsAt (.ofText path.toList) = .ok (Utf8.encode content) ∧
    IsSheet (texts.map String.toList) content

/-- The texts of a run that asks for the file are those on its sheet. -/
theorem HoldsTexts.fileTexts {path : String} {texts : List String}
    (holds : HoldsTexts files path texts) : FileTexts files (.at path) texts := by
  obtain ⟨content, found, sheet⟩ := holds.sheet
  have gathered : FileTexts files (.at path) ((contentLines content).map String.ofList) :=
    .lines holds.noZero found (Utf8.decode_encode content)
  have back : (texts.map String.toList).map String.ofList = texts := by
    rw [List.map_map]
    exact List.map_id'' (fun _ => String.ofList_toList) texts
  rwa [sheet.contentLines, back] at gathered

/-- A run does not know where its texts have come from. -/
theorem run_file_eq_run_texts {given : Arguments} {path : String} {texts : List String}
    (noTexts : given.texts = []) (noFile : given.file = .absent)
    (gathered : FileTexts files (.at path) texts) :
    run zones environment now files { given with file := .at path } =
      run zones environment now files { given with texts := texts } := by
  have fromFile : gatherTexts given.texts (.at path) files = .ok (.ok texts) := by
    cases gathered with
    | lines noZero found decodes =>
      have read := (FileTexts.lines noZero found decodes).textsAt
      rw [gatherTexts, noZero, if_neg Bool.false_ne_true, read, noTexts]
      rfl
  have fromLine : gatherTexts texts given.file files = .ok (.ok texts) := by
    rw [noFile]
    rfl
  rw [run, run]
  simp only [fromFile, fromLine]

theorem execute_of_file {options fileLine : List String} {given : Arguments} {path : String}
    {texts : List String} (only : OnlyOptions options given) (holds : HoldsTexts files path texts)
    (asks : Request.ofArguments fileLine = .ok (.judge { given with file := .at path })) :
    execute zones environment now files fileLine =
      execute zones environment now files (options ++ "--" :: texts) := by
  rw [execute_of_accepted asks, execute_of_accepted (only.with_texts texts),
    run_file_eq_run_texts only.noTexts only.noFile holds.fileTexts]

/-- Wherever the file is asked for among the options, and in particular in front of them, the line
has the outcome of the line that names the texts in the file behind the options. -/
theorem file_answers_as_its_texts {options : List String} {given : Arguments} {path : String}
    {texts : List String} (only : OnlyOptions options given) (holds : HoldsTexts files path texts) :
    (∀ fileLine, Request.ofArguments fileLine = .ok (.judge { given with file := .at path }) →
      execute zones environment now files fileLine =
        execute zones environment now files (options ++ "--" :: texts)) ∧
    (path ≠ "--" →
      execute zones environment now files (("--file=" ++ path) :: options) =
        execute zones environment now files (options ++ "--" :: texts)) :=
  ⟨fun _ asks => execute_of_file only holds asks,
    fun isPath => execute_of_file only holds (only.with_file isPath)⟩

/-- A sheet with a tab and a space around its first text, a blank line, and no end of its last
line. -/
def looseSheet : List Char :=
  "\tclosed ".toList ++ ['\r', '\n'] ++ (['\n'] ++ "24/7".toList)

/-- A loosely written file and its two texts have one outcome. -/
theorem loose_file_answers_as_two_texts :
    OnlyOptions ["--sort", "--timezone", "UTC"] { sort := true, timezone := some "UTC" } ∧
      Request.ofArguments ["--sort", "--file", "hours.txt", "--timezone", "UTC"] =
        .ok (.judge { sort := true, timezone := some "UTC", file := .at "hours.txt" }) ∧
      HoldsTexts [("hours.txt", Utf8.encode looseSheet)] "hours.txt" ["closed", "24/7"] ∧
      execute Calendar.Zone.table {} ⟨0⟩ [("hours.txt", Utf8.encode looseSheet)]
          ["--sort", "--file", "hours.txt", "--timezone", "UTC"] =
        execute Calendar.Zone.table {} ⟨0⟩ [("hours.txt", Utf8.encode looseSheet)]
          (["--sort", "--timezone", "UTC"] ++ "--" :: ["closed", "24/7"]) ∧
      execute Calendar.Zone.table {} ⟨0⟩ [("hours.txt", Utf8.encode looseSheet)]
          (("--file=" ++ "hours.txt") :: ["--sort", "--timezone", "UTC"]) =
        execute Calendar.Zone.table {} ⟨0⟩ [("hours.txt", Utf8.encode looseSheet)]
          (["--sort", "--timezone", "UTC"] ++ "--" :: ["closed", "24/7"]) := by
  have only : OnlyOptions ["--sort", "--timezone", "UTC"]
      { sort := true, timezone := some "UTC" } :=
    ⟨by decide, by decide, rfl, rfl⟩
  have asks : Request.ofArguments ["--sort", "--file", "hours.txt", "--timezone", "UTC"] =
      .ok (.judge { sort := true, timezone := some "UTC", file := .at "hours.txt" }) := by
    decide
  have closed : IsRow (some "closed".toList) "\tclosed ".toList :=
    @IsRow.entry ['\t'] _ [' '] rfl ⟨by decide, by decide, by decide⟩ rfl
  have always : IsRow (some "24/7".toList) "24/7".toList :=
    @IsRow.entry [] _ [] rfl ⟨by decide, by decide, by decide⟩ rfl
  have sheet : IsSheet ["closed".toList, "24/7".toList] looseSheet :=
    .more closed .returnFeed (.more (@IsRow.blank [] rfl) .feed (.last always))
  have holds : HoldsTexts [("hours.txt", Utf8.encode looseSheet)] "hours.txt" ["closed", "24/7"] :=
    ⟨by decide, looseSheet, rfl, sheet⟩
  exact ⟨only, asks, holds, (file_answers_as_its_texts only holds).1 _ asks,
    (file_answers_as_its_texts only holds).2 (by decide)⟩

end OpeningHours.Command
