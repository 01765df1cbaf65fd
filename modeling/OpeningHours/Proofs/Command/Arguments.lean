import OpeningHours.Command.Arguments

/-
How arguments are taken in, step by step. What a row of arguments makes of the progress so far is a
relation that follows the row, and a line is accepted exactly when such a course ends with nothing
left over. A course goes on from where another one ended, so options may be followed by a double
dash and any texts, and a file may be asked for in front of options that ask for none.
-/

namespace OpeningHours.Command

open Text

/-! ### Courses of arguments -/

namespace Progress

/-- The progress when an option comes with a value. -/
def withValue (progress : Progress) (switch : Switch) (value : String) : Progress :=
  progress.endTexts.withArguments (progress.endTexts.arguments.setValue switch value)

/-- The progress when an option without a value comes. -/
def withSwitch (progress : Progress) (switch : Switch) : Progress :=
  progress.endTexts.withArguments (progress.endTexts.arguments.switchOn switch)

/-- The progress when an argument comes that is not recognized. -/
def withUnknown (progress : Progress) (value : String) : Progress :=
  { progress.endTexts with leftOver := progress.endTexts.leftOver ++ [value] }

variable (progress : Progress) (switch : Switch) (value : String)

@[simp] theorem arguments_endTexts : progress.endTexts.arguments = progress.arguments := by
  rw [endTexts]
  split <;> rfl

@[simp] theorem arguments_addSeparator : progress.addSeparator.arguments = progress.arguments := by
  rw [addSeparator]
  split <;> rfl

@[simp] theorem arguments_withUnknown :
    (progress.withUnknown value).arguments = progress.arguments :=
  progress.arguments_endTexts

@[simp] theorem arguments_withValue :
    (progress.withValue switch value).arguments = progress.arguments.setValue switch value := by
  rw [withValue, withArguments, arguments_endTexts]

@[simp] theorem arguments_withSwitch :
    (progress.withSwitch switch).arguments = progress.arguments.switchOn switch := by
  rw [withSwitch, withArguments, arguments_endTexts]

/-- A text is added unless the row of texts has ended. -/
theorem addText_of_not_past {progress : Progress} (notPast : progress.phase ≠ .past)
    (value : String) :
    progress.addText value =
      ⟨{ progress.arguments with texts := progress.arguments.texts ++ [value] }, .coming,
        progress.leftOver⟩ := by
  obtain ⟨arguments, phase, leftOver⟩ := progress
  cases phase
  · rfl
  · rfl
  · exact absurd rfl notPast

theorem addText_of_past {progress : Progress} (past : progress.phase = .past) (value : String) :
    progress.addText value =
      { progress with leftOver := progress.leftOver ++ [value] } := by
  rw [addText, past]

@[simp] theorem file_addText :
    (progress.addText value).arguments.file = progress.arguments.file := by
  rw [addText]
  split <;> rfl

/-- The progress with a file asked for as well. -/
def askFile (path : String) : Progress :=
  progress.withArguments { progress.arguments with file := .at path }

theorem askFile_addText (path : String) :
    (progress.addText value).askFile path = (progress.askFile path).addText value := by
  obtain ⟨arguments, phase, leftOver⟩ := progress
  cases phase <;> rfl

theorem askFile_addSeparator (path : String) :
    progress.addSeparator.askFile path = (progress.askFile path).addSeparator := by
  obtain ⟨arguments, phase, leftOver⟩ := progress
  cases phase <;> rfl

theorem askFile_withUnknown (path : String) :
    (progress.withUnknown value).askFile path = (progress.askFile path).withUnknown value := by
  obtain ⟨arguments, phase, leftOver⟩ := progress
  cases phase <;> rfl

theorem askFile_withSwitch (path : String) :
    (progress.withSwitch switch).askFile path = (progress.askFile path).withSwitch switch := by
  obtain ⟨arguments, phase, leftOver⟩ := progress
  cases phase <;> cases switch <;> rfl

theorem askFile_withValue {switch : Switch} (other : switch ≠ .file) (path : String) :
    (progress.withValue switch value).askFile path =
      (progress.askFile path).withValue switch value := by
  obtain ⟨arguments, phase, leftOver⟩ := progress
  cases switch with
  | file => exact absurd rfl other
  | help | «at» | timezone | sort | json => cases phase <;> rfl

end Progress

@[simp] theorem Arguments.file_switchOn (arguments : Arguments) (switch : Switch) :
    (arguments.switchOn switch).file = arguments.file := by
  cases switch <;> rfl

/-- Only a value for a file is a choice of one. -/
theorem Arguments.file_setValue_eq_absent {arguments : Arguments} {switch : Switch}
    {value : String} (absent : (arguments.setValue switch value).file = .absent) :
    switch ≠ .file ∧ arguments.file = .absent := by
  cases switch with
  | file =>
    rw [setValue] at absent
    dsimp only at absent
    split at absent <;> cases absent
  | help | «at» | timezone | sort | json => exact ⟨nofun, absent⟩

@[simp] theorem Arguments.texts_setValue (arguments : Arguments) (switch : Switch)
    (value : String) : (arguments.setValue switch value).texts = arguments.texts := by
  cases switch <;> rfl

@[simp] theorem Arguments.texts_switchOn (arguments : Arguments) (switch : Switch) :
    (arguments.switchOn switch).texts = arguments.texts := by
  cases switch <;> rfl

/-- The arguments lead from the one progress to the other. -/
inductive Leads : Progress → List Token → Progress → Prop
  | done {progress : Progress} : Leads progress [] progress
  | text {progress last : Progress} {value : String} {rest : List Token}
      (onward : Leads (progress.addText value) rest last) :
      Leads progress (.text value :: rest) last
  | separator {progress last : Progress} {rest : List Token}
      (onward : Leads progress.addSeparator rest last) : Leads progress (.separator :: rest) last
  | unknown {progress last : Progress} {value : String} {rest : List Token}
      (onward : Leads (progress.withUnknown value) rest last) :
      Leads progress (.unknown value :: rest) last
  | joined {progress last : Progress} {switch : Switch} {spelling : Spelling} {value : String}
      {rest : List Token} (takes : switch.takesValue = true)
      (onward : Leads (progress.withValue switch value) rest last) :
      Leads progress (.switch switch spelling (some value) :: rest) last
  | value {progress last : Progress} {switch : Switch} {spelling : Spelling} {value : String}
      {rest : List Token} (takes : switch.takesValue = true)
      (onward : Leads (progress.withValue switch value) rest last) :
      Leads progress (.switch switch spelling none :: .text value :: rest) last
  | switch {progress last : Progress} {switch : Switch} {spelling : Spelling}
      {joined : Option String} {rest : List Token} (takesNone : switch.takesValue = false)
      (allUsed : (joined.bind fun value => ignoredPart spelling value.toList) = none)
      (noHelp : switch ≠ .help) (onward : Leads (progress.withSwitch switch) rest last) :
      Leads progress (.switch switch spelling joined :: rest) last

theorem Leads.takeIn_eq {progress last : Progress} {tokens : List Token}
    (leads : Leads progress tokens last) (nothingLeft : last.leftOver = []) :
    takeIn progress tokens = .ok (.judge last.arguments) := by
  induction leads with
  | done => rw [takeIn, nothingLeft]; rfl
  | text _ inductionHypothesis => rw [takeIn, inductionHypothesis nothingLeft]
  | separator _ inductionHypothesis => rw [takeIn, inductionHypothesis nothingLeft]
  | unknown _ inductionHypothesis =>
    rw [takeIn]
    exact inductionHypothesis nothingLeft
  | joined takes _ inductionHypothesis =>
    rw [takeIn.eq_def]
    exact (if_pos takes).trans (inductionHypothesis nothingLeft)
  | value takes _ inductionHypothesis =>
    rw [takeIn.eq_def]
    exact (if_pos takes).trans (inductionHypothesis nothingLeft)
  | switch takesNone allUsed noHelp _ inductionHypothesis =>
    rw [takeIn.eq_def]
    simp only [takesNone, allUsed, if_neg noHelp, Bool.false_eq_true, if_false]
    exact inductionHypothesis nothingLeft

theorem exists_leads_of_takeIn {progress : Progress} {tokens : List Token} {given : Arguments}
    (accepted : takeIn progress tokens = .ok (.judge given)) :
    ∃ last, Leads progress tokens last ∧ last.leftOver = [] ∧ last.arguments = given := by
  fun_induction takeIn progress tokens with
  | case1 progress nothingLeft =>
    obtain rfl := Request.judge.inj (Except.ok.inj accepted)
    exact ⟨progress, .done, List.isEmpty_iff.mp nothingLeft, rfl⟩
  | case2 | case8 | case9 | case10 => cases accepted
  | case3 progress value rest inductionHypothesis =>
    exact (inductionHypothesis accepted).imp fun _ => And.imp_left .text
  | case4 progress rest inductionHypothesis =>
    exact (inductionHypothesis accepted).imp fun _ => And.imp_left .separator
  | case5 progress value rest ended inductionHypothesis =>
    exact (inductionHypothesis accepted).imp fun _ => And.imp_left .unknown
  | case6 progress switch spelling rest ended takes value inductionHypothesis =>
    exact (inductionHypothesis accepted).imp fun _ => And.imp_left (.joined takes)
  | case7 progress switch spelling ended takes value rest inductionHypothesis =>
    exact (inductionHypothesis accepted).imp fun _ => And.imp_left (.value takes)
  | case11 progress switch spelling joined rest ended takesNone allUsed noHelp
      inductionHypothesis =>
    exact (inductionHypothesis accepted).imp fun _ =>
      And.imp_left (.switch (Bool.not_eq_true _ ▸ takesNone) allUsed noHelp)

/-- Arguments are taken in exactly when they lead to an end with nothing left over. -/
theorem takeIn_eq_judge_iff {progress : Progress} {tokens : List Token} {given : Arguments} :
    takeIn progress tokens = .ok (.judge given) ↔
      ∃ last, Leads progress tokens last ∧ last.leftOver = [] ∧ last.arguments = given := by
  constructor
  · exact exists_leads_of_takeIn
  · rintro ⟨last, leads, nothingLeft, rfl⟩
    exact leads.takeIn_eq nothingLeft

namespace Leads

variable {progress middle last : Progress} {tokens more : List Token}

theorem append (leads : Leads progress tokens middle) (onward : Leads middle more last) :
    Leads progress (tokens ++ more) last := by
  induction leads with
  | done => exact onward
  | text _ inductionHypothesis => exact .text (inductionHypothesis onward)
  | separator _ inductionHypothesis => exact .separator (inductionHypothesis onward)
  | unknown _ inductionHypothesis => exact .unknown (inductionHypothesis onward)
  | joined takes _ inductionHypothesis => exact .joined takes (inductionHypothesis onward)
  | value takes _ inductionHypothesis => exact .value takes (inductionHypothesis onward)
  | switch takesNone allUsed noHelp _ inductionHypothesis =>
    exact .switch takesNone allUsed noHelp (inductionHypothesis onward)

/-- Texts that have been taken stay. -/
theorem texts_eq_nil (leads : Leads progress tokens last) (noTexts : last.arguments.texts = []) :
    progress.arguments.texts = [] := by
  induction leads with
  | done => exact noTexts
  | @text progress last value rest _ inductionHypothesis =>
    have before := inductionHypothesis noTexts
    by_cases past : progress.phase = .past
    · rwa [Progress.addText_of_past past] at before
    · rw [Progress.addText_of_not_past past] at before
      exact (List.append_eq_nil_iff.mp before).1
  | separator _ inductionHypothesis
  | unknown _ inductionHypothesis
  | joined _ _ inductionHypothesis
  | value _ _ inductionHypothesis
  | switch _ _ _ _ inductionHypothesis => simpa using inductionHypothesis noTexts

/-- Where no double dash comes and no text has been taken in the end, the texts are still to
come. -/
theorem phase_eq_ahead (leads : Leads progress tokens last) (noSeparator : .separator ∉ tokens)
    (ahead : progress.phase = .ahead) (noTexts : last.arguments.texts = []) :
    last.phase = .ahead := by
  have ended {progress : Progress} (ahead : progress.phase = .ahead) :
      progress.endTexts.phase = .ahead := by
    rw [Progress.endTexts, ahead]
    exact ahead
  induction leads with
  | done => exact ahead
  | @text progress last value rest onward _ =>
    have before := onward.texts_eq_nil noTexts
    rw [Progress.addText_of_not_past (by rw [ahead]; decide)] at before
    exact absurd before (List.append_ne_nil_of_right_ne_nil _ (List.cons_ne_nil _ _))
  | separator => exact absurd List.mem_cons_self noSeparator
  | value _ _ inductionHypothesis =>
    refine inductionHypothesis (fun member => noSeparator ?_) (ended ahead) noTexts
    exact List.mem_cons_of_mem _ (List.mem_cons_of_mem _ member)
  | unknown _ inductionHypothesis
  | joined _ _ inductionHypothesis
  | switch _ _ _ _ inductionHypothesis =>
    exact inductionHypothesis (fun member => noSeparator (List.mem_cons_of_mem _ member))
      (ended ahead) noTexts

/-- Texts in a row are taken one after another. -/
theorem texts (notPast : progress.phase ≠ .past) (values : List String) :
    ∃ last, Leads progress (values.map .text) last ∧ last.leftOver = progress.leftOver ∧
      last.arguments =
        { progress.arguments with texts := progress.arguments.texts ++ values } := by
  induction values generalizing progress with
  | nil => exact ⟨progress, .done, rfl, by rw [List.append_nil]⟩
  | cons value rest inductionHypothesis =>
    have step := Progress.addText_of_not_past notPast value
    have coming : (progress.addText value).phase ≠ .past := by
      rw [step]
      exact nofun
    obtain ⟨last, onward, nothingMore, taken⟩ := inductionHypothesis coming
    refine ⟨last, .text onward, ?_, ?_⟩
    · rw [nothingMore, step]
    · rw [taken, step, List.append_assoc]
      rfl

/-- Where no file is asked for in the end, none has been asked for. -/
theorem file_eq_absent (leads : Leads progress tokens last)
    (noFile : last.arguments.file = .absent) : progress.arguments.file = .absent := by
  induction leads with
  | done => exact noFile
  | @text progress last value rest _ inductionHypothesis =>
    have before := inductionHypothesis noFile
    rwa [Progress.file_addText] at before
  | separator _ inductionHypothesis
  | unknown _ inductionHypothesis
  | switch _ _ _ _ inductionHypothesis => simpa using inductionHypothesis noFile
  | joined _ _ inductionHypothesis
  | value _ _ inductionHypothesis =>
    have before := inductionHypothesis noFile
    rw [Progress.arguments_withValue] at before
    exact (Arguments.file_setValue_eq_absent before).2

/-- Options that ask for no file may follow upon a file that is asked for. -/
theorem askFile (leads : Leads progress tokens last) (noFile : last.arguments.file = .absent)
    (path : String) : Leads (progress.askFile path) tokens (last.askFile path) := by
  induction leads with
  | done => exact .done
  | text _ inductionHypothesis =>
    exact .text (Progress.askFile_addText _ _ _ ▸ inductionHypothesis noFile)
  | separator _ inductionHypothesis =>
    exact .separator (Progress.askFile_addSeparator _ _ ▸ inductionHypothesis noFile)
  | unknown _ inductionHypothesis =>
    exact .unknown (Progress.askFile_withUnknown _ _ _ ▸ inductionHypothesis noFile)
  | switch takesNone allUsed noHelp _ inductionHypothesis =>
    exact .switch takesNone allUsed noHelp
      (Progress.askFile_withSwitch _ _ _ ▸ inductionHypothesis noFile)
  | joined takes onward inductionHypothesis =>
    have other := (Arguments.file_setValue_eq_absent
      (Progress.arguments_withValue _ _ _ ▸ onward.file_eq_absent noFile)).1
    exact .joined takes (Progress.askFile_withValue _ _ other _ ▸ inductionHypothesis noFile)
  | value takes onward inductionHypothesis =>
    have other := (Arguments.file_setValue_eq_absent
      (Progress.arguments_withValue _ _ _ ▸ onward.file_eq_absent noFile)).1
    exact .value takes (Progress.askFile_withValue _ _ other _ ▸ inductionHypothesis noFile)

end Leads

/-! ### Lines of arguments -/

theorem classify_ne_separator (argument : String) : classify argument ≠ .ok .separator := by
  unfold classify
  dsimp only
  repeat' split
  all_goals nofun

theorem tokens_cons_eq_ok_iff {argument : String} {rest : List String} {told : List Token}
    (other : argument ≠ "--") :
    tokens (argument :: rest) = .ok told ↔
      ∃ token others, classify argument = .ok token ∧ tokens rest = .ok others ∧
        told = token :: others := by
  rw [tokens, if_neg other]
  cases classify argument with
  | error fault => exact ⟨nofun, nofun⟩
  | ok token =>
    cases tokens rest with
    | error fault => exact ⟨nofun, nofun⟩
    | ok others =>
      constructor
      · intro same
        exact ⟨token, others, rfl, rfl, (Except.ok.inj same).symm⟩
      · rintro ⟨_, _, ⟨⟩, ⟨⟩, rfl⟩
        rfl

/-- Options in front of a double dash are told apart as they are alone, and everything behind it is
a text. -/
theorem tokens_append {options : List String} {told : List Token} (noDashes : "--" ∉ options)
    (apart : tokens options = .ok told) (texts : List String) :
    tokens (options ++ "--" :: texts) = .ok (told ++ .separator :: texts.map .text) := by
  induction options generalizing told with
  | nil =>
    obtain rfl := Except.ok.inj apart
    exact if_pos rfl
  | cons argument rest inductionHypothesis =>
    have other : argument ≠ "--" := fun same => noDashes (same ▸ List.mem_cons_self)
    obtain ⟨token, others, classified, onward, rfl⟩ := (tokens_cons_eq_ok_iff other).mp apart
    refine (tokens_cons_eq_ok_iff other).mpr ⟨token, _, classified, ?_, rfl⟩
    exact inductionHypothesis (fun member => noDashes (List.mem_cons_of_mem _ member)) onward

theorem separator_not_mem_tokens {options : List String} {told : List Token}
    (noDashes : "--" ∉ options) (apart : tokens options = .ok told) : .separator ∉ told := by
  induction options generalizing told with
  | nil =>
    obtain rfl := Except.ok.inj apart
    exact List.not_mem_nil
  | cons argument rest inductionHypothesis =>
    have other : argument ≠ "--" := fun same => noDashes (same ▸ List.mem_cons_self)
    obtain ⟨token, others, classified, onward, rfl⟩ := (tokens_cons_eq_ok_iff other).mp apart
    rw [List.mem_cons, not_or]
    constructor
    · rintro rfl
      exact classify_ne_separator argument classified
    · exact inductionHypothesis (fun member => noDashes (List.mem_cons_of_mem _ member)) onward

/-- A line is accepted when its arguments lead to an end with nothing left over. -/
theorem ofArguments_eq_judge_iff {line : List String} {given : Arguments} :
    Request.ofArguments line = .ok (.judge given) ↔
      ∃ told last, tokens line = .ok told ∧ Leads {} told last ∧ last.leftOver = [] ∧
        last.arguments = given := by
  rw [Request.ofArguments]
  cases tokens line with
  | error fault => exact ⟨nofun, nofun⟩
  | ok told =>
    refine takeIn_eq_judge_iff.trans ?_
    constructor
    · rintro ⟨last, leads, ended⟩
      exact ⟨told, last, rfl, leads, ended⟩
    · rintro ⟨_, last, ⟨⟩, leads, ended⟩
      exact ⟨last, leads, ended⟩

/-- The arguments are options only: they are accepted, with no texts and no file. -/
structure OnlyOptions (options : List String) (given : Arguments) : Prop where
  accepted : Request.ofArguments options = .ok (.judge given)
  noDashes : "--" ∉ options
  noTexts : given.texts = []
  noFile : given.file = .absent

/-- Options may be followed by a double dash and any texts. -/
theorem OnlyOptions.with_texts {options : List String} {given : Arguments}
    (only : OnlyOptions options given) (texts : List String) :
    Request.ofArguments (options ++ "--" :: texts) =
      .ok (.judge { given with texts := texts }) := by
  obtain ⟨told, middle, apart, leads, nothingLeft, rfl⟩ := ofArguments_eq_judge_iff.mp only.accepted
  have ahead := leads.phase_eq_ahead (separator_not_mem_tokens only.noDashes apart) rfl only.noTexts
  have coming : middle.addSeparator = { middle with phase := .coming } := by
    rw [Progress.addSeparator, ahead]
  have notPast : middle.addSeparator.phase ≠ .past := by
    rw [coming]
    exact nofun
  obtain ⟨last, onward, nothingMore, taken⟩ := Leads.texts notPast texts
  refine ofArguments_eq_judge_iff.mpr
    ⟨_, last, tokens_append only.noDashes apart texts, leads.append (.separator onward), ?_, ?_⟩
  · rw [nothingMore, coming]
    exact nothingLeft
  · rw [taken, coming, only.noTexts]
    rfl

theorem toList_file (path : String) :
    ("--file=" ++ path).toList = '-' :: '-' :: 'f' :: 'i' :: 'l' :: 'e' :: '=' :: path.toList :=
  String.toList_append

/-- The path of a file may be joined on with an equals sign. -/
theorem classify_file (path : String) :
    classify ("--file=" ++ path) = .ok (.switch .file .long (some path)) := by
  have unspelled : Switch.spellings.lookup ("--file=" ++ path) = none := by
    rw [List.lookup_eq_none_iff]
    intro spelling member
    have noEquals : ∀ spelling ∈ Switch.spellings, '=' ∉ spelling.1.toList := by decide
    refine bne_iff_ne.mpr fun same => noEquals spelling member ?_
    rw [← same, toList_file]
    simp
  have parts : splitAtEquals ("--file=" ++ path).toList = ("--file".toList, some path.toList) := by
    rw [toList_file]
    rfl
  have front : Switch.spellings.lookup (String.ofList "--file".toList) = some .file := rfl
  have back : String.ofList path.toList = path := String.ofList_toList
  rw [classify]
  simp only [parts, unspelled, Option.bind_some, front, back, Option.map_some]
  rw [toList_file]
  rfl

/-- A file may be asked for in front of options. -/
theorem OnlyOptions.with_file {options : List String} {given : Arguments}
    (only : OnlyOptions options given) {path : String} (isPath : path ≠ "--") :
    Request.ofArguments (("--file=" ++ path) :: options) =
      .ok (.judge { given with file := .at path }) := by
  obtain ⟨told, last, apart, leads, nothingLeft, rfl⟩ := ofArguments_eq_judge_iff.mp only.accepted
  have other : "--file=" ++ path ≠ "--" := by
    intro same
    have spelled := congrArg String.toList same
    rw [toList_file] at spelled
    cases spelled
  have asked : Progress.withValue {} .file path = Progress.askFile {} path := by
    simp only [Progress.withValue, Arguments.setValue, if_neg isPath]
    rfl
  refine ofArguments_eq_judge_iff.mpr ⟨_, last.askFile path,
    (tokens_cons_eq_ok_iff other).mpr ⟨_, told, classify_file path, apart, rfl⟩,
    .joined rfl ?_, nothingLeft, rfl⟩
  rw [asked]
  exact leads.askFile only.noFile path

end OpeningHours.Command
