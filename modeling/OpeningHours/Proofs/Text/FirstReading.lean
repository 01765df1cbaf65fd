import OpeningHours.Proofs.Text.Search

/-
The preferred reading of a text. A scan either reads a text, leaving a known rest, or fails on it,
and which of the two it does is settled part by part: a sequence reads what its parts read one after
the other, and an optional part is passed over where its scan fails.
-/

namespace OpeningHours.Text.Scan

variable {Value Next : Type}

/-- Wherever the text comes next, the scan reads the value by preference and leaves the rest. -/
structure Reads (scan : Scan Value) (text : List Char) (value : Value) (rest : List Char) :
    Prop where
  first : ∀ before, ∃ last, (scan ⟨before, text⟩).head? = some (value, ⟨last, rest⟩)

/-- Wherever the text comes next, the scan has no way to read on. -/
structure Fails (scan : Scan Value) (text : List Char) : Prop where
  none : ∀ before, scan ⟨before, text⟩ = []

/-! ### What comes next -/

theorem head?_any_eq_false {holds other : Char → Bool}
    (apart : ∀ char, holds char = true → other char = false) {text : List Char}
    (begins : text.head?.any holds = true) : text.head?.any other = false := by
  cases text with
  | nil => rfl
  | cons char rest => exact apart char begins

theorem head?_any_eq_false_of_imp {holds wider : Char → Bool}
    (implies : ∀ char, holds char = true → wider char = true) {text : List Char}
    (stops : text.head?.any wider = false) : text.head?.any holds = false := by
  cases text with
  | nil => rfl
  | cons char rest =>
    rw [← Bool.not_eq_true] at stops ⊢
    exact fun held => stops (implies char held)

theorem head?_any_append {holds : Char → Bool} {read : List Char} (nonempty : read ≠ [])
    (all : read.all holds = true) (rest : List Char) :
    (read ++ rest).head?.any holds = true := by
  cases read with
  | nil => exact absurd rfl nonempty
  | cons char read =>
    rw [List.all_cons, Bool.and_eq_true] at all
    exact all.1

theorem head?_any_append_eq_false {holds other : Char → Bool}
    (apart : ∀ char, holds char = true → other char = false) {read rest : List Char}
    (all : read.all holds = true) (stops : rest.head?.any other = false) :
    (read ++ rest).head?.any other = false := by
  cases read with
  | nil => exact stops
  | cons char read =>
    rw [List.all_cons, Bool.and_eq_true] at all
    exact apart char all.1

/-! ### Sequences and alternatives -/

theorem Reads.done (value : Value) (text : List Char) : Reads (done value) text value text :=
  ⟨fun before => ⟨before, rfl⟩⟩

theorem Reads.andThen {scan : Scan Value} {next : Value → Scan Next} {text middle rest : List Char}
    {value : Value} {result : Next} (reads : Reads scan text value middle)
    (goesOn : Reads (next value) middle result rest) :
    Reads (andThen scan next) text result rest := by
  refine ⟨fun before => ?_⟩
  obtain ⟨between, head⟩ := reads.first before
  obtain ⟨last, onward⟩ := goesOn.first between
  exact ⟨last, head?_andThen head onward⟩

theorem Reads.orElse_first {one : Scan Value} {text rest : List Char} {value : Value}
    (reads : Reads one text value rest) (other : Scan Value) :
    Reads (orElse one other) text value rest := by
  refine ⟨fun before => ?_⟩
  obtain ⟨last, head⟩ := reads.first before
  refine ⟨last, ?_⟩
  rw [orElse_apply, List.head?_append, head, Option.some_or]

theorem Reads.orElse_second {one other : Scan Value} {text rest : List Char} {value : Value}
    (fails : Fails one text) (reads : Reads other text value rest) :
    Reads (orElse one other) text value rest := by
  refine ⟨fun before => ?_⟩
  obtain ⟨last, head⟩ := reads.first before
  refine ⟨last, ?_⟩
  rw [orElse_apply, fails.none before, List.nil_append, head]

theorem orElse_andThen (one other : Scan Value) (next : Value → Scan Next) :
    andThen (orElse one other) next = orElse (andThen one next) (andThen other next) :=
  funext fun _ => List.flatMap_append

theorem Fails.orElse {one other : Scan Value} {text : List Char} (first : Fails one text)
    (second : Fails other text) : Fails (orElse one other) text := by
  refine ⟨fun before => ?_⟩
  rw [orElse_apply, first.none before, second.none before, List.append_nil]

theorem Reads.optional {scan : Scan Value} {text rest : List Char} {value : Value}
    (reads : Reads scan text value rest) : Reads (optional scan) text (some value) rest :=
  (reads.andThen (.done (some value) rest)).orElse_first _

theorem Fails.andThen {scan : Scan Value} {text : List Char} (fails : Fails scan text)
    (next : Value → Scan Next) : Fails (andThen scan next) text :=
  ⟨fun before => andThen_of_nil next (fails.none before)⟩

/-- A part that is missing and need not be there is passed over in one way. -/
theorem Fails.optional {scan : Scan Value} {text : List Char} (fails : Fails scan text)
    (before : Option Char) : Scan.optional scan ⟨before, text⟩ = [(.none, ⟨before, text⟩)] := by
  rw [Scan.optional, orElse_apply, (fails.andThen _).none before, List.nil_append, done_apply]

theorem Reads.optional_none {scan : Scan Value} {text : List Char} (fails : Fails scan text) :
    Reads (Scan.optional scan) text .none text :=
  ⟨fun before => ⟨before, congrArg List.head? (fails.optional before)⟩⟩

/-- A sequence fails where its first part is missing and its second part fails. -/
theorem Fails.optional_andThen {scan : Scan Value} {next : Option Value → Scan Next}
    {text : List Char} (missing : Fails scan text) (fails : Fails (next .none) text) :
    Fails (Scan.andThen (Scan.optional scan) next) text := by
  refine ⟨fun before => ?_⟩
  rw [andThen_of_single next (missing.optional before), fails.none before]

/-! ### Characters, runs and words -/

theorem Reads.exactly {holds : Char → Bool} {read : List Char} {count : Nat}
    (length : read.length = count) (all : read.all holds = true) (rest : List Char) :
    Reads (exactly holds count) (read ++ rest) read rest := by
  refine ⟨fun before => ?_⟩
  rw [← length]
  exact ⟨_, congrArg List.head? (exactly_append holds before read rest all)⟩

theorem Fails.exactly {holds : Char → Bool} (read : List Char) {rest : List Char} {count : Nat}
    (short : read.length < count) (stops : rest.head?.any holds = false) :
    Fails (exactly holds count) (read ++ rest) :=
  ⟨fun before => exactly_eq_nil holds count before read rest short stops⟩

theorem Fails.exactly_andThen {holds : Char → Bool} {read rest : List Char} {count : Nat}
    {next : List Char → Scan Next} (length : read.length = count) (all : read.all holds = true)
    (fails : Fails (next read) rest) :
    Fails (Scan.andThen (Scan.exactly holds count) next) (read ++ rest) := by
  refine ⟨fun before => ?_⟩
  rw [← length, andThen_of_single next (exactly_append holds before read rest all)]
  exact fails.none _

theorem Reads.run {holds : Char → Bool} {read rest : List Char} (all : read.all holds = true)
    (stops : rest.head?.any holds = false) : Reads (run holds) (read ++ rest) () rest :=
  ⟨fun before => ⟨_, congrArg List.head? (run_append holds before read rest all stops)⟩⟩

theorem Reads.run_none {holds : Char → Bool} {text : List Char}
    (stops : text.head?.any holds = false) : Reads (Scan.run holds) text () text := by
  have still := Reads.run (List.all_nil : [].all holds = true) stops
  rwa [List.nil_append] at still

/-- Nothing is read by a run where its class does not come next. -/
theorem Fails.run_andThen {holds : Char → Bool} {next : Unit → Scan Next} {text : List Char}
    (stops : text.head?.any holds = false) (fails : Fails (next ()) text) :
    Fails (Scan.andThen (Scan.run holds) next) text := by
  refine ⟨fun before => ?_⟩
  have still := run_append holds before [] text rfl stops
  rw [List.nil_append, Place.past_nil] at still
  rw [andThen_of_single next still, fails.none before]

theorem Reads.run1 {holds : Char → Bool} {read rest : List Char} (nonempty : read ≠ [])
    (all : read.all holds = true) (stops : rest.head?.any holds = false) :
    Reads (run1 holds) (read ++ rest) () rest :=
  ⟨fun before => ⟨_, congrArg List.head? (run1_append holds before read rest nonempty all stops)⟩⟩

theorem Fails.run1 {holds : Char → Bool} {text : List Char}
    (stops : text.head?.any holds = false) : Fails (run1 holds) text :=
  ⟨fun _ => run1_eq_nil stops⟩

theorem Reads.word (read rest : List Char) : Reads (word read) (read ++ rest) () rest :=
  ⟨fun before => ⟨_, congrArg List.head? (word_append read before rest)⟩⟩

theorem Fails.word_of_head {char : Char} {read text : List Char}
    (stops : text.head?.any (· = char) = false) : Fails (Scan.word (char :: read)) text :=
  ⟨fun _ => andThen_of_nil _ (oneChar_eq_nil stops)⟩

/-! ### Searching -/

/-- A search passes over characters with which the scan never begins and reads what comes next. -/
theorem search_of_reads {scan : Scan Value} {passed text rest : List Char} {value : Value}
    (fails : ∀ char ∈ passed, ∀ after, Fails scan (char :: after))
    (reads : Reads scan text value rest) :
    (search scan (passed ++ text)).map (·.value) = some value := by
  refine searchFrom_value scan 0 .none passed text value
    (fun char member before after => (fails char member after).none before) fun before => ?_
  obtain ⟨last, head⟩ := reads.first before
  exact ⟨_, head⟩

/-- What a word introduces is found where the word occurs for the first time. -/
theorem search_word_of_reads {read front rest after : List Char} {next : Unit → Scan Value}
    {value : Value} (first : occursIn read (front ++ read.dropLast) = false)
    (reads : Reads (next ()) rest value after) :
    (search (.andThen (.word read) next) (front ++ (read ++ rest))).map (·.value) = some value := by
  have found (position : Nat) (before : Option Char) :
      (searchFrom (.andThen (.word read) next) position before (front ++ (read ++ rest))).map
        (·.value) = some value := by
    induction front generalizing position before with
    | nil =>
      refine searchFrom_value _ position before [] (read ++ rest) value (List.forall_mem_nil _)
        fun before => ?_
      obtain ⟨last, head⟩ := ((Reads.word read rest).andThen reads).first before
      exact ⟨_, head⟩
    | cons char front inductionHypothesis =>
      rw [List.cons_append, occursIn, Bool.or_eq_false_iff] at first
      have notHere : ¬ read <+: char :: (front ++ (read ++ rest)) := by
        intro here
        have short : char :: (front ++ read.dropLast) <+: char :: (front ++ (read ++ rest)) := by
          refine (List.prefix_cons_inj char).mpr ((List.prefix_append_right_inj front).mpr ?_)
          exact (List.dropLast_prefix read).trans (List.prefix_append read rest)
        have within : read.length ≤ (char :: (front ++ read.dropLast)).length := by
          rw [List.length_cons, List.length_append, List.length_dropLast]
          omega
        have begins := List.prefix_of_prefix_length_le here short within
        rw [← List.isPrefixOf_iff_prefix, first.1] at begins
        cases begins
      have none : Scan.andThen (.word read) next ⟨before, char :: (front ++ (read ++ rest))⟩ = [] :=
        andThen_of_nil next (word_eq_nil notHere)
      rw [List.cons_append, searchFrom, none]
      exact inductionHypothesis first.2 (position + 1) (some char)
  exact found 0 .none

end OpeningHours.Text.Scan
