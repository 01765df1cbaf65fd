import OpeningHours.Proofs.Journal.Duration
import OpeningHours.Proofs.Journal.Writing
import OpeningHours.Proofs.Json.OneLine
import OpeningHours.Proofs.Json.ReadBack

/-
Runs of a structured log. What has been recorded is taken as a history, from which it can be told
which names are under way and since when: a name is so since it was started last, unless it was
summed up after that. The timers of the log agree with its history at every moment, whether or not
the events could be written down. Hence a summary tells the time since the latest start of its name,
and no other event tells a time at all. Each event brings forth one line, which is read back: either
all of the event is logged with the trace of the log, or else a complaint is made that bears the
trace as well. There is no line only where writing an event breaks off.
-/

namespace OpeningHours

/-- The text of a line, wherever it goes. -/
def Line.text : Line → String
  | .logged text => text
  | .complaint text => text

/-! ### Readings -/

namespace Readings

/-- The readings show numbers of double precision. -/
structure ShowsGrid (readings : Readings) : Prop where
  next : readings.next.IsOnGrid
  following : ∀ number time, time.IsOnGrid → (readings.following number time).IsOnGrid

theorem ShowsGrid.take {readings : Readings} (showsGrid : readings.ShowsGrid) :
    readings.take.2.ShowsGrid :=
  ⟨showsGrid.following _ _ showsGrid.next, showsGrid.following⟩

theorem showsGrid_regular {start : Double} (onGrid : start.IsOnGrid) (step : Double) :
    (regular start step).ShowsGrid :=
  ⟨onGrid, fun _ time _ => Double.isOnGrid_add time step⟩

end Readings

/-! ### What an event shows -/

/-- Every number of double precision in the value is one as it stands. -/
def Payload.IsExact : Payload → Prop
  | json value => value.IsExact
  | unwritable _ => True
  | breaking _ => True

namespace Event

/-- The value stands under the name in what is written of the event, where the log puts its own
trace and time in the place of any that the event may have. -/
def Shows (event : Event) (name : String) (payload : Payload) : Prop :=
  name ≠ "trace_id" ∧ name ≠ "timestamp" ∧ event.Holds name payload

/-- What the fields that are added to an event are like: none of them is the time taken, the numbers
of double precision in them are such numbers, and writing those that are shown does not break off.
-/
structure IsLoggable (reach : Nat) (event : Event) : Prop where
  untimed : event.Untimed
  exact : ∀ field ∈ event.extra, field.2.IsExact
  within : ∀ field ∈ event.extra, field.1 ∉ ["trace_id", "timestamp"] → field.2.StaysWithin reach

/-- What an event says by itself is a text, a truth value or nothing. -/
theorem isExact_of_tells {kind : EventKind} {name : String} {value : Json}
    (tells : kind.Tells name value) : value.IsExact := by
  cases tells <;> first | exact .string _ | exact .bool _ | exact .null

theorem nestsWithin_of_tells {kind : EventKind} {name : String} {value : Json}
    (tells : kind.Tells name value) (reach : Nat) : value.NestsWithin reach := by
  cases tells <;> first | exact .string _ | exact .bool _ | exact .null

variable {event : Event} {name : String} {payload : Payload}

theorem Shows.isExact (shown : event.Shows name payload)
    (exact : ∀ field ∈ event.extra, field.2.IsExact) : payload.IsExact := by
  obtain ⟨-, -, holds⟩ := shown
  cases holds with
  | added parts _ => exact exact (name, payload) (parts ▸ by simp)
  | own _ tells => exact isExact_of_tells tells

theorem IsLoggable.staysWithin {reach : Nat} (loggable : event.IsLoggable reach)
    (shown : event.Shows name payload) : payload.StaysWithin reach := by
  obtain ⟨noTrace, noTime, holds⟩ := shown
  cases holds with
  | added parts _ =>
    exact loggable.within (name, payload) (parts ▸ by simp) (by simp [noTrace, noTime])
  | own _ tells => exact nestsWithin_of_tells tells reach

end Event

namespace Journal

/-! ### Entries of a run -/

/-- An event that has been recorded: what the clock showed when it was, and what it came to. -/
structure Entry where
  event : Event
  moment : Double
  recorded : Recorded

/-- The entry for an event that is recorded next. -/
def entry (journal : Journal) (event : Event) (readings : Readings) : Entry :=
  ⟨event, readings.next, (journal.record event readings).2.1⟩

/-- The entries for events that are recorded one after another. -/
def entries (journal : Journal) : List Event → Readings → List Entry
  | [], _ => []
  | event :: rest, readings =>
    let (after, _, later) := journal.record event readings
    journal.entry event readings :: after.entries rest later

theorem events_entries (journal : Journal) (events : List Event) (readings : Readings) :
    (journal.entries events readings).map (·.event) = events := by
  induction events generalizing journal readings with
  | nil => rfl
  | cons event rest inductionHypothesis => exact congrArg (event :: ·) (inductionHypothesis _ _)

/-- What a run comes to is what its entries do. -/
theorem recorded_entries (journal : Journal) (events : List Event) (readings : Readings) :
    (journal.entries events readings).map (·.recorded) =
      (journal.recordAll events readings).2.1 := by
  induction events generalizing journal readings with
  | nil => rfl
  | cons event rest inductionHypothesis =>
    exact congrArg ((journal.record event readings).2.1 :: ·) (inductionHypothesis _ _)

/-! ### What is under way -/

/-- The name was started at the moment, and was neither started again nor summed up since. -/
def UnderWay (history : List Entry) (name : String) (moment : Double) : Prop :=
  ∃ before start after, history = before ++ start :: after ∧ start.event.kind = .start name ∧
    start.moment = moment ∧
      ∀ entry ∈ after, entry.event.kind ≠ .start name ∧ entry.event.kind ≠ .summary name

/-- What is under way after one more entry: what this starts, and what it leaves alone. -/
theorem underWay_append_single {history : List Entry} {entry : Entry} {name : String}
    {moment : Double} : UnderWay (history ++ [entry]) name moment ↔
      (entry.event.kind = .start name ∧ entry.moment = moment) ∨
        (entry.event.kind ≠ .start name ∧ entry.event.kind ≠ .summary name ∧
          UnderWay history name moment) := by
  constructor
  · rintro ⟨before, start, after, parts, started, since, untouched⟩
    rcases List.eq_nil_or_concat' after with rfl | ⟨after, last, rfl⟩
    · obtain ⟨-, same⟩ := List.append_inj' parts rfl
      cases same
      exact .inl ⟨started, since⟩
    · rw [← List.cons_append, ← List.append_assoc] at parts
      obtain ⟨rfl, same⟩ := List.append_inj' parts rfl
      cases same
      obtain ⟨noStart, noSummary⟩ := untouched entry (List.mem_append_right _ List.mem_cons_self)
      exact .inr ⟨noStart, noSummary, before, start, after, rfl, started, since,
        fun other member => untouched other (List.mem_append_left _ member)⟩
  · rintro (⟨started, since⟩ | ⟨noStart, noSummary, before, start, after, rfl, started, since,
      untouched⟩)
    · exact ⟨history, entry, [], rfl, started, since, List.forall_mem_nil _⟩
    · refine ⟨before, start, after ++ [entry], by simp, started, since, ?_⟩
      exact List.forall_mem_append.mpr
        ⟨untouched, List.forall_mem_singleton.mpr ⟨noStart, noSummary⟩⟩

/-! ### Timers -/

/-- The timers after an event of a kind that is recorded at a moment. -/
def timersAfter (kind : EventKind) (moment : Double) (timers : List (String × Double)) :
    List (String × Double) :=
  match kind with
  | .start name => setTimer name moment timers
  | .summary name => dropTimer name timers
  | _ => timers

/-- The time that an event of a kind tells: a summary tells the one since its name was started. -/
def took? (kind : EventKind) (moment : Double) (timers : List (String × Double)) :
    Option Double :=
  match kind with
  | .summary name => (timers.lookup name).map fun start => duration start moment
  | _ => none

theorem lookup_dropTimer (name other : String) (timers : List (String × Double)) :
    (dropTimer name timers).lookup other = if other = name then none else timers.lookup other := by
  induction timers with
  | nil => exact (ite_self none).symm
  | cons timer timers inductionHypothesis =>
    unfold dropTimer at inductionHypothesis ⊢
    rw [lookup_cons_eq_ite other timer]
    by_cases here : timer.1 = name
    · rw [List.filter_cons_of_neg (by simpa using here), inductionHypothesis, here]
      by_cases same : other = name
      · rw [if_pos same, if_pos same]
      · rw [if_neg same, if_neg same, if_neg same]
    · rw [List.filter_cons_of_pos (by simpa using here), lookup_cons_eq_ite, inductionHypothesis]
      by_cases same : other = timer.1
      · rw [if_pos same, if_neg fun equal => here (same.symm.trans equal), if_pos same]
      · rw [if_neg same, if_neg same]

theorem dropTimer_of_lookup_eq_none {name : String} {timers : List (String × Double)}
    (absent : timers.lookup name = none) : dropTimer name timers = timers := by
  refine List.filter_eq_self.mpr fun timer member => decide_eq_true ?_
  rintro rfl
  simpa using List.lookup_eq_none_iff.mp absent timer member

theorem lookup_setTimer (name other : String) (moment : Double) (timers : List (String × Double)) :
    (setTimer name moment timers).lookup other =
      if other = name then some moment else timers.lookup other := by
  rw [setTimer, lookup_cons_eq_ite]
  by_cases same : other = name
  · rw [if_pos same, if_pos same]
  · rw [if_neg same, if_neg same]
    exact (lookup_dropTimer name other timers).trans (if_neg same)

/-- What the timers show after an event: the moment at which it starts the name, or what they showed
before if the event leaves the name alone. -/
theorem lookup_timersAfter {kind : EventKind} {moment shown : Double} {name : String}
    {timers : List (String × Double)} :
    (timersAfter kind moment timers).lookup name = some shown ↔
      (kind = .start name ∧ moment = shown) ∨
        (kind ≠ .start name ∧ kind ≠ .summary name ∧ timers.lookup name = some shown) := by
  cases kind with
  | start other =>
    rw [timersAfter, lookup_setTimer]
    by_cases same : name = other
    · simp [same]
    · simp [same, Ne.symm same]
  | summary other =>
    rw [timersAfter, lookup_dropTimer]
    by_cases same : name = other
    · simp [same]
    · simp [same, Ne.symm same]
  | evaluation _ _ _ => simp [timersAfter]
  | error _ _ => simp [timersAfter]
  | warning _ _ => simp [timersAfter]

/-! ### One event -/

/-- The timers of the log show what is under way in its history. -/
def Tracks (journal : Journal) (history : List Entry) : Prop :=
  ∀ name moment, journal.timers.lookup name = some moment ↔ UnderWay history name moment

/-- An event changes the timers of the log alone, and comes to what its fields do together with the
time that it tells. -/
theorem record_eq (journal : Journal) (event : Event) (readings : Readings) :
    ∃ later, (later = readings ∨ later = readings.take.2) ∧
      journal.record event readings =
        ({ journal with timers := timersAfter event.kind readings.next journal.timers },
          journal.emit (event.timed (took? event.kind readings.next journal.timers)).fields
            later) := by
  obtain ⟨kind, extra⟩ := event
  cases kind with
  | start name => exact ⟨_, .inr rfl, rfl⟩
  | evaluation _ _ _ => exact ⟨_, .inl rfl, rfl⟩
  | error _ _ => exact ⟨_, .inl rfl, rfl⟩
  | warning _ _ => exact ⟨_, .inl rfl, rfl⟩
  | summary name =>
    cases found : journal.timers.lookup name with
    | none =>
      -- The timers stay as they are, since there is none to take away.
      rw [timersAfter, took?, dropTimer_of_lookup_eq_none found, found, record]
      dsimp only
      rw [found]
      exact ⟨_, .inl rfl, rfl⟩
    | some start =>
      rw [timersAfter, took?, found, record]
      dsimp only
      rw [found]
      exact ⟨_, .inr rfl, rfl⟩

theorem Tracks.record {journal : Journal} {history : List Entry} (tracks : journal.Tracks history)
    (event : Event) (readings : Readings) :
    (journal.record event readings).1.Tracks (history ++ [journal.entry event readings]) := by
  obtain ⟨_, _, same⟩ := journal.record_eq event readings
  intro name moment
  rw [same, lookup_timersAfter, underWay_append_single, tracks name moment]
  rfl

theorem showsGrid_emit (journal : Journal) (fields : List EventField) {readings : Readings}
    (showsGrid : readings.ShowsGrid) : (journal.emit fields readings).2.ShowsGrid := by
  unfold emit
  dsimp only
  split
  · exact showsGrid.take
  · exact showsGrid.take.take
  · split
    · exact showsGrid.take.take
    · exact showsGrid.take

theorem showsGrid_record (journal : Journal) (event : Event) {readings : Readings}
    (showsGrid : readings.ShowsGrid) : (journal.record event readings).2.2.ShowsGrid := by
  obtain ⟨later, rfl | rfl, same⟩ := journal.record_eq event readings
  · rw [same]
    exact showsGrid_emit journal _ showsGrid
  · rw [same]
    exact showsGrid_emit journal _ showsGrid.take

/-- Every entry of a run was made by a log with the same trace, destination and reach, whose timers
showed what was under way then. -/
theorem exists_of_entries {journal : Journal} {history : List Entry}
    (tracks : journal.Tracks history) {events : List Event} {readings : Readings}
    (showsGrid : readings.ShowsGrid) {earlier later : List Entry} {entry : Entry}
    (run : journal.entries events readings = earlier ++ entry :: later) :
    ∃ (timers : List (String × Double)) (event : Event) (shown : Readings), event ∈ events ∧
      shown.ShowsGrid ∧ Tracks { journal with timers := timers } (history ++ earlier) ∧
        entry = Journal.entry { journal with timers := timers } event shown := by
  -- The history grows by the entry of each event, and what it tells is kept by `Tracks.record`.
  induction events generalizing journal history readings earlier with
  | nil => cases earlier <;> cases run
  | cons event events inductionHypothesis =>
    cases earlier with
    | nil =>
      obtain ⟨rfl, -⟩ := List.cons.inj run
      rw [List.append_nil]
      exact ⟨journal.timers, event, readings, List.mem_cons_self, showsGrid, tracks, rfl⟩
    | cons first earlier =>
      obtain ⟨rfl, onward⟩ := List.cons.inj run
      obtain ⟨timers, other, shown, member, shownOnGrid, tracks, made⟩ :=
        inductionHypothesis (tracks.record event readings)
          (journal.showsGrid_record event showsGrid) onward
      obtain ⟨_, _, same⟩ := journal.record_eq event readings
      rw [List.append_assoc, List.singleton_append] at tracks
      rw [same] at tracks made
      exact ⟨timers, other, shown, List.mem_cons_of_mem event member, shownOnGrid, tracks, made⟩

theorem took?_eq_some_iff {journal : Journal} {history : List Entry}
    (tracks : journal.Tracks history) {kind : EventKind} {moment took : Double} :
    took? kind moment journal.timers = some took ↔
      ∃ name start, kind = .summary name ∧ UnderWay history name start ∧
        took = duration start moment := by
  constructor
  · intro tells
    cases kind with
    | summary name =>
      obtain ⟨start, found, rfl⟩ := Option.map_eq_some_iff.mp tells
      exact ⟨name, start, rfl, (tracks name start).mp found, rfl⟩
    | start _ => cases tells
    | evaluation _ _ _ => cases tells
    | error _ _ => cases tells
    | warning _ _ => cases tells
  · rintro ⟨name, start, rfl, underWay, rfl⟩
    exact Option.map_eq_some_iff.mpr ⟨start, (tracks name start).mpr underWay, rfl⟩

/-! ### Lines of a run -/

/-- What is logged of an entry: the trace of the log, a time, the time since the latest start of its
name if the event sums up a name that is under way, and all else that the event holds. -/
structure Carries (traceId : String) (earlier : List Entry) (entry : Entry)
    (members : List (String × Json)) : Prop where
  distinct : (members.map (·.1)).Nodup
  trace : members.lookup "trace_id" = some (.string traceId)
  timestamp : ∃ time, members.lookup "timestamp" = some (.real time)
  timed : ∀ value, members.lookup "duration_ms" = some value ↔ ∃ name start took,
    entry.event.kind = .summary name ∧ UnderWay earlier name start ∧
      Measures start entry.moment took ∧ value = .real took
  others : ∀ name ∉ ["trace_id", "timestamp", "duration_ms"], ∀ value,
    members.lookup name = some value ↔ entry.event.Holds name (.json value)

/-- What a line tells of an entry, which is read off its text: all of the event is logged if all of
it can be written down, and otherwise there is a complaint about something that cannot. -/
inductive LineTells (reach : Nat) (traceId : String) (earlier : List Entry) (entry : Entry) :
    Line → Prop
  | logged {text : String} {members : List (String × Json)}
      (within : ∀ name payload, entry.event.Shows name payload → payload.StaysWithin reach)
      (writable : ∀ name payload, entry.event.Shows name payload → payload.IsWritable)
      (read : Json.ofString? text = some (.object members))
      (carries : Carries traceId earlier entry members) :
      LineTells reach traceId earlier entry (.logged text)
  | complaint {text name : String} {payload : Payload} {cause : Unwritable} {time : Double}
      (shown : entry.event.Shows name payload) (fails : payload.FailsBy cause)
      (read : Json.ofString? text = some (.object
        [("event", .string "logger_internal_error"), ("trace_id", .string traceId),
         ("timestamp", .real time), ("error", .string cause.message)])) :
      LineTells reach traceId earlier entry (.complaint text)

/-- Every entry has come to one line that tells of it. -/
def Faithful (journal : Journal) (entries : List Entry) : Prop :=
  ∀ earlier entry later, entries = earlier ++ entry :: later →
    ∃ line, entry.recorded = .ok line ∧ '\n' ∉ line.text.toList ∧
      LineTells journal.reach journal.traceId earlier entry line

section

variable {journal : Journal} {history : List Entry} {event : Event} {readings : Readings}
  {took? : Option Double} {time : Double} {members : List (String × Json)}

/-- What is written of an event is what it shows, and what the log adds. -/
theorem shows_of_lookup_stamped (untimed : event.Untimed) {name : String} {payload : Payload}
    (found : (journal.stamped time (event.timed took?).fields).lookup name = some payload) :
    event.Shows name payload ∨ payload = Event.text journal.traceId ∨
      payload = .json (.real time) ∨ ∃ took ∈ took?, payload = .json (.real took) := by
  by_cases trace : name = "trace_id"
  · rw [trace, lookup_trace_stamped] at found
    exact .inr (.inl (Option.some.inj found).symm)
  by_cases stamp : name = "timestamp"
  · rw [stamp, lookup_timestamp_stamped] at found
    exact .inr (.inr (.inl (Option.some.inj found).symm))
  rw [lookup_stamped time _ trace stamp] at found
  by_cases duration : name = "duration_ms"
  · rw [duration, Event.lookup_duration_timed untimed] at found
    obtain ⟨took, tells, same⟩ := Option.map_eq_some_iff.mp found
    exact .inr (.inr (.inr ⟨took, tells, same.symm⟩))
  · rw [Event.lookup_timed untimed _ duration, Event.lookup_fields_iff] at found
    exact .inl ⟨trace, stamp, found⟩

/-- What an event shows is written of it. -/
theorem lookup_stamped_of_shows (untimed : event.Untimed) {name : String} {payload : Payload}
    (shown : event.Shows name payload) :
    (journal.stamped time (event.timed took?).fields).lookup name = some payload := by
  obtain ⟨noTrace, noTime, holds⟩ := shown
  have found := Event.lookup_fields_iff.mpr holds
  have noDuration : name ≠ "duration_ms" := by
    rintro rfl
    rw [Event.lookup_duration_fields untimed] at found
    cases found
  rw [lookup_stamped time _ noTrace noTime, Event.lookup_timed untimed _ noDuration, found]

theorem mem_iff_lookup_stamped {name : String} {payload : Payload} :
    (name, payload) ∈ journal.stamped time (event.timed took?).fields ↔
      (journal.stamped time (event.timed took?).fields).lookup name = some payload :=
  mem_iff_lookup_eq_some (nodup_stamped time (Event.nodup_fields _))

/-- What is written of an event, unless it is like what the log adds, is what the event shows. -/
theorem shows_of_mem_stamped (untimed : event.Untimed) {field : EventField}
    (member : field ∈ journal.stamped time (event.timed took?).fields)
    (noText : field.2 ≠ Event.text journal.traceId)
    (noReal : ∀ value, field.2 ≠ .json (.real value)) :
    event.Shows field.1 field.2 := by
  rcases shows_of_lookup_stamped untimed (mem_iff_lookup_stamped.mp member) with
    shown | text | real | ⟨took, -, real⟩
  · exact shown
  · exact absurd text noText
  · exact absurd real (noReal time)
  · exact absurd real (noReal took)

/-- What the log adds can be written down, so it is the event that shows what cannot. -/
theorem shows_of_fails (untimed : event.Untimed) {field : EventField} {cause : Unwritable}
    (member : field ∈ journal.stamped time (event.timed took?).fields)
    (fails : field.2.FailsBy cause) : event.Shows field.1 field.2 := by
  refine shows_of_mem_stamped untimed member ?_ fun value => ?_
  · intro text
    rw [text] at fails
    exact fails.1 (.string _)
  · intro real
    rw [real] at fails
    exact fails.1 (.real _)

theorem shows_of_beyond (untimed : event.Untimed) {field : EventField} {reach : Nat}
    (member : field ∈ journal.stamped time (event.timed took?).fields)
    (beyond : ¬ field.2.StaysWithin reach) : event.Shows field.1 field.2 := by
  refine shows_of_mem_stamped untimed member ?_ fun value => ?_
  · intro text
    rw [text] at beyond
    exact beyond (.string _)
  · intro real
    rw [real] at beyond
    exact beyond (.real _)

theorem ofString?_failureLine (onGrid : time.IsOnGrid) (message : String) :
    Json.ofString? (journal.failureLine time message).text = some (.object
      [("event", .string "logger_internal_error"), ("trace_id", .string journal.traceId),
       ("timestamp", .real time), ("error", .string message)]) := by
  refine Json.ofString?_toLine (.object ?_)
  simp only [List.forall_mem_cons]
  exact ⟨.string _, .string _, .real onGrid, .string _, List.forall_mem_nil _⟩

theorem exists_member_of_shows (untimed : event.Untimed)
    (written : journal.stamped time (event.timed took?).fields = writtenFields members)
    {name : String} {payload : Payload} (shown : event.Shows name payload) :
    ∃ member ∈ members, .json member.2 = payload := by
  have member : (name, payload) ∈ writtenFields members := by
    rw [← written]
    exact mem_iff_lookup_stamped.mpr (lookup_stamped_of_shows untimed shown)
  obtain ⟨member, inMembers, same⟩ := List.mem_map.mp member
  exact ⟨member, inMembers, congrArg Prod.snd same⟩

theorem isExact_of_stamped (untimed : event.Untimed)
    (exact : ∀ field ∈ event.extra, field.2.IsExact) (timeOnGrid : time.IsOnGrid)
    (tookOnGrid : ∀ took ∈ took?, took.IsOnGrid)
    (written : journal.stamped time (event.timed took?).fields = writtenFields members) :
    ∀ member ∈ members, member.2.IsExact := by
  intro member inMembers
  have among : (member.1, .json member.2) ∈ writtenFields members := List.mem_map_of_mem inMembers
  rw [← written] at among
  rcases shows_of_lookup_stamped untimed (mem_iff_lookup_stamped.mp among) with
    shown | text | real | ⟨took, tells, real⟩
  · exact shown.isExact exact
  · exact Payload.json.inj text ▸ .string _
  · exact Payload.json.inj real ▸ .real timeOnGrid
  · exact Payload.json.inj real ▸ .real (tookOnGrid took tells)

/-- The fields that are written of an event carry what they should. -/
theorem carries_of_stamped (tracks : journal.Tracks history) (untimed : event.Untimed)
    (written : journal.stamped time
      (event.timed (Journal.took? event.kind readings.next journal.timers)).fields =
        writtenFields members) :
    Carries journal.traceId history (journal.entry event readings) members := by
  have lookup : ∀ name value, members.lookup name = some value ↔ (journal.stamped time
      (event.timed (Journal.took? event.kind readings.next journal.timers)).fields).lookup name =
        some (.json value) := by
    intro name value
    rw [written, lookup_writtenFields, Option.map_eq_some_iff]
    exact ⟨fun found => ⟨value, found, rfl⟩, fun ⟨_, found, same⟩ => Payload.json.inj same ▸ found⟩
  exact {
    distinct := by
      rw [← names_writtenFields, ← written]
      exact nodup_stamped time (Event.nodup_fields _)
    trace := (lookup _ _).mpr (lookup_trace_stamped time _)
    timestamp := ⟨time, (lookup _ _).mpr (lookup_timestamp_stamped time _)⟩
    timed := by
      intro value
      rw [lookup, lookup_stamped _ _ (by decide) (by decide), Event.lookup_duration_timed untimed,
        Option.map_eq_some_iff]
      constructor
      · rintro ⟨took, tells, same⟩
        obtain ⟨name, start, summary, underWay, rfl⟩ := (took?_eq_some_iff tracks).mp tells
        exact ⟨name, start, _, summary, underWay, measures_duration _ _,
          (Payload.json.inj same).symm⟩
      · rintro ⟨name, start, took, summary, underWay, measures, rfl⟩
        exact ⟨took, (took?_eq_some_iff tracks).mpr
          ⟨name, start, summary, underWay, measures.computed⟩, rfl⟩
    others := by
      intro name other value
      simp only [List.mem_cons, List.not_mem_nil, or_false, not_or] at other
      rw [lookup, lookup_stamped _ _ other.1 other.2.1, Event.lookup_timed untimed _ other.2.2]
      exact Event.lookup_fields_iff }

/-- An event comes to one line that tells of it, or else writing something that it shows breaks off.
-/
theorem tells_or_breaks_off (tracks : journal.Tracks history)
    (accepting : journal.destination = .accepting) (untimed : event.Untimed)
    (exact : ∀ field ∈ event.extra, field.2.IsExact) (showsGrid : readings.ShowsGrid) :
    (∃ line, (journal.entry event readings).recorded = .ok line ∧ '\n' ∉ line.text.toList ∧
      LineTells journal.reach journal.traceId history (journal.entry event readings) line) ∨
    ∃ error name payload, (journal.entry event readings).recorded = .error error ∧
      event.Shows name payload ∧ ¬ payload.StaysWithin journal.reach := by
  obtain ⟨later, which, same⟩ := journal.record_eq event readings
  have laterOnGrid : later.ShowsGrid := by
    rcases which with rfl | rfl
    · exact showsGrid
    · exact showsGrid.take
  have recorded : (journal.entry event readings).recorded = (journal.emit
      (event.timed (Journal.took? event.kind readings.next journal.timers)).fields later).1 := by
    rw [entry, same]
  have emits := emits_emit accepting
    (event.timed (Journal.took? event.kind readings.next journal.timers)).fields later
  rw [← recorded] at emits
  generalize stamped : journal.stamped later.next
    (event.timed (Journal.took? event.kind readings.next journal.timers)).fields = fields at emits
  generalize (journal.entry event readings).recorded = outcome at emits ⊢
  cases emits with
  | @logged members within writable =>
    have exactMembers : ∀ member ∈ members, member.2.IsExact := by
      refine isExact_of_stamped untimed exact laterOnGrid.next (fun took tells => ?_) stamped
      obtain ⟨_, start, -, -, rfl⟩ := (took?_eq_some_iff tracks).mp tells
      exact isOnGrid_duration start readings.next
    refine .inl ⟨_, rfl, Json.newline_not_mem_toLine _, .logged ?_ ?_
      (Json.ofString?_toLine (.object exactMembers)) (carries_of_stamped tracks untimed stamped)⟩
    · intro name payload shown
      obtain ⟨member, inMembers, rfl⟩ := exists_member_of_shows untimed stamped shown
      exact within member inMembers
    · intro name payload shown
      obtain ⟨member, inMembers, rfl⟩ := exists_member_of_shows untimed stamped shown
      exact writable member inMembers
  | @refused fields field cause member fails =>
    rw [← stamped] at member
    exact .inl ⟨_, rfl, Json.newline_not_mem_toLine _,
      .complaint (shows_of_fails untimed member fails) fails
        (ofString?_failureLine laterOnGrid.take.next cause.message)⟩
  | @broken fields field member beyond error =>
    rw [← stamped] at member
    exact .inr ⟨error, field.1, field.2, rfl, shows_of_beyond untimed member beyond, beyond⟩

end

theorem tracks_create (reach : Nat) (fresh : String) (given : Option String)
    (destination : Destination) : (create reach fresh given destination).Tracks [] := by
  intro name moment
  constructor
  · intro found
    cases found
  · rintro ⟨before, start, after, parts, -⟩
    cases before <;> cases parts

/-- Where writing an event breaks off there is no line, but it does so only at something that the
event shows; and the log goes on as if there had been one. -/
theorem recordAll_tells_or_breaks_off (reach : Nat) (fresh : String) (given : Option String)
    (events : List Event) (readings : Readings) (untimed : ∀ event ∈ events, event.Untimed)
    (exact : ∀ event ∈ events, ∀ field ∈ event.extra, field.2.IsExact)
    (showsGrid : readings.ShowsGrid) :
    let journal := create reach fresh given .accepting
    ∀ earlier entry later, journal.entries events readings = earlier ++ entry :: later →
      (∃ line, entry.recorded = .ok line ∧ '\n' ∉ line.text.toList ∧
        LineTells reach journal.traceId earlier entry line) ∨
      ∃ error name payload, entry.recorded = .error error ∧ entry.event.Shows name payload ∧
        ¬ payload.StaysWithin reach := by
  intro journal earlier entry later run
  obtain ⟨timers, event, shown, member, shownOnGrid, tracks, rfl⟩ :=
    exists_of_entries (tracks_create reach fresh given .accepting) showsGrid run
  exact tells_or_breaks_off tracks rfl (untimed event member) (exact event member) shownOnGrid

/-- A name that is started twice, the second time with something that cannot be written down, and
summed up twice, with a warning under a trace of its own in between. -/
def restartedLoad : List Event :=
  [⟨.start "load", []⟩, ⟨.start "load", [("payload", .unwritable (.nameNotText "tuple"))]⟩,
   ⟨.warning "load" "slow", [("trace_id", Event.text "other")]⟩, ⟨.summary "load", []⟩,
   ⟨.summary "load", []⟩]

theorem isLoggable_of_mem_restartedLoad (reach : Nat) :
    ∀ event ∈ restartedLoad, event.IsLoggable reach := by
  simp only [restartedLoad, List.forall_mem_cons]
  refine ⟨?_, ?_, ?_, ?_, ?_, List.forall_mem_nil _⟩
  · exact ⟨by decide, nofun, nofun⟩
  · exact ⟨by decide, List.forall_mem_singleton.mpr trivial,
      List.forall_mem_singleton.mpr fun _ => trivial⟩
  · exact ⟨by decide, List.forall_mem_singleton.mpr (.string _),
      List.forall_mem_singleton.mpr fun _ => .string _⟩
  · exact ⟨by decide, nofun, nofun⟩
  · exact ⟨by decide, nofun, nofun⟩

end Journal

end OpeningHours
