import Mathlib.Data.List.Nodup
import OpeningHours.Journal.Recorder

/-
What the fields of an event hold. Under each name an event holds what was added last under it, or
else what an event of its kind says by itself; its fields are just that, with each name standing
once. Setting a field changes no other, so that the trace and the time come on top of what is
recorded.
-/

namespace OpeningHours

/-! ### Fields of one name -/

theorem lookup_cons_eq_ite {Value : Type} (name : String) (first : String × Value)
    (rest : List (String × Value)) :
    (first :: rest).lookup name = if name = first.1 then some first.2 else rest.lookup name := by
  by_cases same : name = first.1
  · rw [if_pos same, List.lookup_cons, beq_iff_eq.mpr same]
  · rw [if_neg same, List.lookup_cons, beq_eq_false_iff_ne.mpr same]

section

variable {name other : String} {value : Payload} {fields others : List EventField}

theorem lookup_setPayload : (setPayload name value fields).lookup other =
    if other = name then some value else fields.lookup other := by
  induction fields with
  | nil => rw [setPayload, lookup_cons_eq_ite]
  | cons field rest inductionHypothesis =>
    rw [setPayload, lookup_cons_eq_ite other field]
    by_cases here : field.1 = name
    · rw [if_pos here, lookup_cons_eq_ite, here]
      by_cases same : other = name
      · rw [if_pos same, if_pos same]
      · rw [if_neg same, if_neg same, if_neg same]
    · rw [if_neg here, lookup_cons_eq_ite, inductionHypothesis]
      by_cases same : other = field.1
      · rw [if_pos same, if_neg fun equal => here (same.symm.trans equal), if_pos same]
      · rw [if_neg same, if_neg same]

theorem mem_names_setPayload : other ∈ (setPayload name value fields).map (·.1) ↔
    other = name ∨ other ∈ fields.map (·.1) := by
  induction fields with
  | nil => exact List.mem_cons
  | cons field rest inductionHypothesis =>
    rw [setPayload, List.map_cons]
    by_cases here : field.1 = name
    · rw [if_pos here, List.map_cons, List.mem_cons, List.mem_cons, here]
      exact or_self_left.symm
    · rw [if_neg here, List.map_cons, List.mem_cons, List.mem_cons, inductionHypothesis]
      exact or_left_comm

theorem nodup_setPayload (distinct : (fields.map (·.1)).Nodup) :
    ((setPayload name value fields).map (·.1)).Nodup := by
  induction fields with
  | nil => exact List.nodup_singleton name
  | cons field rest inductionHypothesis =>
    obtain ⟨fresh, distinct⟩ := List.nodup_cons.mp distinct
    unfold setPayload
    by_cases here : field.1 = name
    · rw [if_pos here, List.map_cons, ← here]
      exact List.nodup_cons.mpr ⟨fresh, distinct⟩
    · rw [if_neg here, List.map_cons]
      refine List.nodup_cons.mpr ⟨?_, inductionHypothesis distinct⟩
      rw [mem_names_setPayload, not_or]
      exact ⟨here, fresh⟩

theorem setPayload_of_not_mem (absent : name ∉ fields.map (·.1)) :
    setPayload name value fields = fields ++ [(name, value)] := by
  induction fields with
  | nil => rfl
  | cons field rest inductionHypothesis =>
    rw [List.map_cons, List.mem_cons, not_or] at absent
    rw [setPayload, if_neg (Ne.symm absent.1), inductionHypothesis absent.2, List.cons_append]

/-- What was added last under a name counts. -/
theorem lookup_addPayloads :
    (addPayloads fields others).lookup name =
      (others.reverse.lookup name).or (fields.lookup name) := by
  induction others generalizing fields with
  | nil => rfl
  | cons field rest inductionHypothesis =>
    have step : addPayloads fields (field :: rest) =
        addPayloads (setPayload field.1 field.2 fields) rest := rfl
    rw [step, inductionHypothesis, List.reverse_cons, List.lookup_append, Option.or_assoc,
      lookup_setPayload, lookup_cons_eq_ite, List.lookup_nil]
    split <;> rfl

theorem lookup_reverse_eq_none_iff :
    others.reverse.lookup name = none ↔ name ∉ others.map (·.1) := by
  rw [List.lookup_eq_none_iff]
  simp only [List.mem_reverse, bne_iff_ne, List.mem_map, not_exists, not_and, ne_comm]

theorem lookup_reverse_eq_some_iff :
    others.reverse.lookup name = some value ↔
      ∃ before after, others = before ++ (name, value) :: after ∧ name ∉ after.map (·.1) := by
  rw [List.lookup_eq_some_iff]
  constructor
  · rintro ⟨before, after, parts, absent⟩
    refine ⟨after.reverse, before.reverse, ?_, ?_⟩
    · rw [← List.reverse_reverse others, parts]
      simp
    · rintro member
      obtain ⟨field, member, same⟩ := List.mem_map.mp member
      exact bne_iff_ne.mp (absent field (List.mem_reverse.mp member)) same.symm
  · rintro ⟨before, after, rfl, absent⟩
    refine ⟨after.reverse, before.reverse, by simp, fun field member => ?_⟩
    refine bne_iff_ne.mpr fun same => absent ?_
    exact List.mem_map.mpr ⟨field, List.mem_reverse.mp member, same.symm⟩

theorem nodup_addPayloads (distinct : (fields.map (·.1)).Nodup) :
    ((addPayloads fields others).map (·.1)).Nodup := by
  induction others generalizing fields with
  | nil => exact distinct
  | cons field rest inductionHypothesis => exact inductionHypothesis (nodup_setPayload distinct)

end

/-- What stands once under a name is found under it. -/
theorem mem_iff_lookup_eq_some {Value : Type} {name : String} {value : Value}
    {fields : List (String × Value)} (distinct : (fields.map (·.1)).Nodup) :
    (name, value) ∈ fields ↔ fields.lookup name = some value := by
  induction fields with
  | nil => simp
  | cons field rest inductionHypothesis =>
    obtain ⟨fresh, distinct⟩ := List.nodup_cons.mp distinct
    rw [lookup_cons_eq_ite, List.mem_cons, inductionHypothesis distinct]
    by_cases same : name = field.1
    · rw [if_pos same]
      constructor
      · rintro (rfl | found)
        · rfl
        · have member := (inductionHypothesis distinct).mpr found
          have named : name ∈ rest.map (·.1) := List.mem_map_of_mem member
          rw [same] at named
          exact absurd named fresh
      · rintro found
        exact .inl (Prod.ext same (Option.some.inj found).symm)
    · rw [if_neg same]
      constructor
      · rintro (rfl | found)
        · exact absurd rfl same
        · exact found
      · exact .inr

/-! ### What an event holds -/

/-- What an event of a kind says by itself, and under which names. -/
inductive EventKind.Tells : EventKind → String → Json → Prop
  | start (name : String) : Tells (.start name) "event" (.string "start")
  | startName (name : String) : Tells (.start name) "name" (.string name)
  | evaluation (hours : Option String) (kind : String) (isOpen : Option Bool) :
      Tells (.evaluation hours kind isOpen) "event" (.string "evaluation")
  | hours (text kind : String) (isOpen : Option Bool) :
      Tells (.evaluation (some text) kind isOpen) "hours" (.string text)
  | noHours (kind : String) (isOpen : Option Bool) :
      Tells (.evaluation none kind isOpen) "hours" .null
  | kind (hours : Option String) (kind : String) (isOpen : Option Bool) :
      Tells (.evaluation hours kind isOpen) "kind" (.string kind)
  | isOpen (hours : Option String) (kind : String) (isOpen : Bool) :
      Tells (.evaluation hours kind (some isOpen)) "is_open" (.bool isOpen)
  | isUnknown (hours : Option String) (kind : String) :
      Tells (.evaluation hours kind none) "is_open" .null
  | error (name message : String) : Tells (.error name message) "event" (.string "error")
  | errorName (name message : String) : Tells (.error name message) "name" (.string name)
  | errorMessage (name message : String) : Tells (.error name message) "error" (.string message)
  | warning (name message : String) : Tells (.warning name message) "event" (.string "warning")
  | warningName (name message : String) : Tells (.warning name message) "name" (.string name)
  | warningMessage (name message : String) :
      Tells (.warning name message) "message" (.string message)
  | summary (name : String) : Tells (.summary name) "event" (.string "summary")
  | summaryName (name : String) : Tells (.summary name) "name" (.string name)

/-- Under the name the event holds the value: it was added last under it, or nothing was added, and
an event of this kind says it by itself. -/
inductive Event.Holds (event : Event) (name : String) : Payload → Prop
  | added {before after : List EventField} {payload : Payload}
      (parts : event.extra = before ++ (name, payload) :: after)
      (last : name ∉ after.map (·.1)) : Holds event name payload
  | own {value : Json} (absent : name ∉ event.extra.map (·.1))
      (told : event.kind.Tells name value) : Holds event name (.json value)

namespace Event

theorem nodup_ownFields (kind : EventKind) : ((ownFields kind).map (·.1)).Nodup := by
  cases kind <;> simp [ownFields]

/-- The fields that go with a kind are what an event of the kind says by itself. -/
theorem lookup_ownFields_iff {kind : EventKind} {name : String} {payload : Payload} :
    (ownFields kind).lookup name = some payload ↔
      ∃ value, kind.Tells name value ∧ payload = .json value := by
  constructor
  · rw [← mem_iff_lookup_eq_some (nodup_ownFields kind)]
    intro member
    cases kind with
    | start name =>
      simp only [ownFields, List.mem_cons, Prod.mk.injEq, List.not_mem_nil, or_false] at member
      rcases member with ⟨rfl, rfl⟩ | ⟨rfl, rfl⟩
      · exact ⟨_, .start name, rfl⟩
      · exact ⟨_, .startName name, rfl⟩
    | evaluation hours kind isOpen =>
      simp only [ownFields, List.mem_cons, Prod.mk.injEq, List.not_mem_nil, or_false] at member
      rcases member with ⟨rfl, rfl⟩ | ⟨rfl, rfl⟩ | ⟨rfl, rfl⟩ | ⟨rfl, rfl⟩
      · exact ⟨_, .evaluation hours kind isOpen, rfl⟩
      · cases hours with
        | none => exact ⟨_, .noHours kind isOpen, rfl⟩
        | some text => exact ⟨_, .hours text kind isOpen, rfl⟩
      · exact ⟨_, .kind hours kind isOpen, rfl⟩
      · cases isOpen with
        | none => exact ⟨_, .isUnknown hours kind, rfl⟩
        | some isOpen => exact ⟨_, .isOpen hours kind isOpen, rfl⟩
    | error name message =>
      simp only [ownFields, List.mem_cons, Prod.mk.injEq, List.not_mem_nil, or_false] at member
      rcases member with ⟨rfl, rfl⟩ | ⟨rfl, rfl⟩ | ⟨rfl, rfl⟩
      · exact ⟨_, .error name message, rfl⟩
      · exact ⟨_, .errorName name message, rfl⟩
      · exact ⟨_, .errorMessage name message, rfl⟩
    | warning name message =>
      simp only [ownFields, List.mem_cons, Prod.mk.injEq, List.not_mem_nil, or_false] at member
      rcases member with ⟨rfl, rfl⟩ | ⟨rfl, rfl⟩ | ⟨rfl, rfl⟩
      · exact ⟨_, .warning name message, rfl⟩
      · exact ⟨_, .warningName name message, rfl⟩
      · exact ⟨_, .warningMessage name message, rfl⟩
    | summary name =>
      simp only [ownFields, List.mem_cons, Prod.mk.injEq, List.not_mem_nil, or_false] at member
      rcases member with ⟨rfl, rfl⟩ | ⟨rfl, rfl⟩
      · exact ⟨_, .summary name, rfl⟩
      · exact ⟨_, .summaryName name, rfl⟩
  · rintro ⟨value, told, rfl⟩
    cases told <;> rfl

/-- The fields of an event are what it holds. -/
theorem lookup_fields_iff {event : Event} {name : String} {payload : Payload} :
    event.fields.lookup name = some payload ↔ event.Holds name payload := by
  rw [fields, lookup_addPayloads]
  constructor
  · intro found
    cases added : event.extra.reverse.lookup name with
    | some last =>
      rw [added] at found
      obtain rfl := Option.some.inj found
      obtain ⟨before, after, parts, last⟩ := lookup_reverse_eq_some_iff.mp added
      exact .added parts last
    | none =>
      rw [added] at found
      obtain ⟨value, told, rfl⟩ := lookup_ownFields_iff.mp found
      exact .own (lookup_reverse_eq_none_iff.mp added) told
  · rintro (⟨parts, last⟩ | ⟨absent, told⟩)
    · rw [lookup_reverse_eq_some_iff.mpr ⟨_, _, parts, last⟩]
      rfl
    · rw [lookup_reverse_eq_none_iff.mpr absent]
      exact lookup_ownFields_iff.mpr ⟨_, told, rfl⟩

/-! ### The time taken -/

variable {event : Event}

/-- No field for the time taken is added to the event. -/
def Untimed (event : Event) : Prop :=
  "duration_ms" ∉ event.extra.map (·.1)

instance (event : Event) : Decidable event.Untimed :=
  inferInstanceAs (Decidable ("duration_ms" ∉ event.extra.map (·.1)))

/-- The event with the time taken, if there is one, as a field. -/
def timed (event : Event) : Option Double → Event
  | none => event
  | some took => { event with
      extra := setPayload "duration_ms" (.json (.real took)) event.extra }

theorem nodup_fields (event : Event) : (event.fields.map (·.1)).Nodup :=
  nodup_addPayloads (nodup_ownFields event.kind)

theorem lookup_duration_fields (untimed : event.Untimed) :
    event.fields.lookup "duration_ms" = none := by
  rw [fields, lookup_addPayloads, lookup_reverse_eq_none_iff.mpr untimed]
  cases event.kind <;> rfl

/-- The time taken is a field like those of the event, and changes none of them. -/
theorem fields_timed (untimed : event.Untimed) (took : Double) :
    (event.timed (some took)).fields =
      setPayload "duration_ms" (.json (.real took)) event.fields := by
  rw [timed, fields, setPayload_of_not_mem untimed, addPayloads, List.foldl_append]
  rfl

theorem lookup_duration_timed (untimed : event.Untimed) (took : Option Double) :
    (event.timed took).fields.lookup "duration_ms" = took.map fun took => .json (.real took) := by
  cases took with
  | none => exact lookup_duration_fields untimed
  | some took => rw [fields_timed untimed, lookup_setPayload, if_pos rfl, Option.map_some]

theorem lookup_timed (untimed : event.Untimed) (took : Option Double) {name : String}
    (other : name ≠ "duration_ms") :
    (event.timed took).fields.lookup name = event.fields.lookup name := by
  cases took with
  | none => rfl
  | some took => rw [fields_timed untimed, lookup_setPayload, if_neg other]

end Event

namespace Journal

variable {journal : Journal}

/-- The fields with the trace of the log and a time on top. -/
def stamped (journal : Journal) (time : Double) (fields : List EventField) : List EventField :=
  setPayload "timestamp" (.json (.real time))
    (setPayload "trace_id" (Event.text journal.traceId) fields)

theorem lookup_trace_stamped (time : Double) (fields : List EventField) :
    (journal.stamped time fields).lookup "trace_id" = some (Event.text journal.traceId) := by
  rw [stamped, lookup_setPayload, if_neg (by decide), lookup_setPayload, if_pos rfl]

theorem lookup_timestamp_stamped (time : Double) (fields : List EventField) :
    (journal.stamped time fields).lookup "timestamp" = some (.json (.real time)) := by
  rw [stamped, lookup_setPayload, if_pos rfl]

theorem lookup_stamped (time : Double) (fields : List EventField) {name : String}
    (noTrace : name ≠ "trace_id") (noTime : name ≠ "timestamp") :
    (journal.stamped time fields).lookup name = fields.lookup name := by
  rw [stamped, lookup_setPayload, if_neg noTime, lookup_setPayload, if_neg noTrace]

theorem nodup_stamped (time : Double) {fields : List EventField}
    (distinct : (fields.map (·.1)).Nodup) : ((journal.stamped time fields).map (·.1)).Nodup :=
  nodup_setPayload (nodup_setPayload distinct)

end Journal

end OpeningHours
