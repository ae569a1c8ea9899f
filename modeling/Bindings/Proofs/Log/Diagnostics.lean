import Bindings.Log.Diagnostics
import Mathlib.Data.List.Forall2

/-! The report of a run accounts for every warning and error.

Both counters and the list of messages are determined by the events alone: the counters by their
levels, the list by the first of those that count. What the list has no room for is the number that
the report ends with.
-/

set_option autoImplicit false

namespace Bindings.Log

def Level.isReported : Level → Bool
  | .warn | .error => true
  | _ => false

def reported (events : List Event) : List Event := events.filter (·.level.isReported)

def trailing (fields : List (String × String)) : String :=
  String.join (fields.map fun field => " " ++ field.1 ++ "=" ++ field.2)

/-- The text of an event: its message and its fields in order, with a space before all but the
first of what is there. -/
structure Event.Spelled (event : Event) (text : String) : Prop where
  message : ∀ said, event.message = some said → said ≠ "" → text = said ++ trailing event.fields
  fields : event.message.getD "" = "" → event.fields ≠ [] → " " ++ text = trailing event.fields
  nothing : event.message.getD "" = "" → event.fields = [] → text = ""

section Text

theorem trailing_cons (field : String × String) (fields : List (String × String)) :
    trailing (field :: fields) = " " ++ (field.1 ++ "=" ++ field.2 ++ trailing fields) := by
  simp only [trailing, List.map_cons, String.join_cons, String.append_assoc]

theorem intercalate_cons_fields (first : String) (fields : List (String × String)) :
    " ".intercalate (first :: fields.map fun field => field.1 ++ "=" ++ field.2) =
      first ++ trailing fields := by
  induction fields generalizing first with
  | nil => simp [trailing, String.join]
  | cons field fields ih =>
    rw [List.map_cons, String.intercalate_cons_cons, ih, trailing_cons, String.append_assoc]

theorem Event.spelled_text (event : Event) : event.Spelled event.text where
  message said present nonempty := by
    simp only [text, present, Option.getD_some, String.isEmpty_iff, nonempty, if_false]
    exact intercalate_cons_fields said event.fields
  fields silent some_ := by
    obtain ⟨field, fields, same⟩ := List.exists_cons_of_ne_nil some_
    rw [text, silent, same, if_pos (by rfl), List.map_cons, intercalate_cons_fields, trailing_cons]
  nothing silent none_ := by simp [text, silent, none_]

end Text

theorem reported_cons (event : Event) (events : List Event) :
    reported (event :: events) =
      (if event.level.isReported then [event] else []) ++ reported events := by
  by_cases counted : event.level.isReported = true <;> simp [reported, counted]

theorem reported_append_singleton (events : List Event) (event : Event) :
    reported (events ++ [event]) =
      reported events ++ if event.level.isReported then [event] else [] := by
  by_cases counted : event.level.isReported = true <;> simp [reported, counted]

/-- An event that is reported is either a warning or an error. -/
theorem countP_warn_add_countP_error (events : List Event) :
    events.countP (·.level = .warn) + events.countP (·.level = .error) =
      (reported events).length := by
  induction events with
  | nil => rfl
  | cons event events ih =>
    rw [reported_cons, List.length_append, ← ih, List.countP_cons, List.countP_cons]
    cases level : event.level <;> simp [Level.isReported] <;> omega

namespace Diagnostics

def entry (event : Event) : String :=
  event.level.label ++ " " ++ event.target ++ ": " ++ event.text

/-- What has been recorded after some events. -/
structure Records (d : Diagnostics) (events : List Event) : Prop where
  warnings : d.warnings = events.countP (·.level = .warn)
  errors : d.errors = events.countP (·.level = .error)
  messages : d.messages = ((reported events).map entry).take retained

variable {d : Diagnostics} {events : List Event}

theorem records_nil : Records {} [] := ⟨rfl, rfl, rfl⟩

@[simp] theorem keep_warnings (d : Diagnostics) (message : String) :
    (d.keep message).warnings = d.warnings := by
  rw [keep]
  split <;> rfl

@[simp] theorem keep_errors (d : Diagnostics) (message : String) :
    (d.keep message).errors = d.errors := by
  rw [keep]
  split <;> rfl

/-- A list that is full stays what the limit leaves of all entries. -/
theorem keep_messages {entries : List String} (same : d.messages = entries.take retained)
    (message : String) : (d.keep message).messages = (entries ++ [message]).take retained := by
  by_cases room : entries.length < retained
  · have whole : entries.take retained = entries := List.take_of_length_le (by omega)
    rw [keep, same, whole, if_pos room, List.take_of_length_le]
    rw [List.length_append, List.length_singleton]
    omega
  · have full : (entries.take retained).length = retained := by
      rw [List.length_take]
      omega
    rw [keep, same, full, if_neg (Nat.lt_irrefl _), same, List.take_append_of_le_length (by omega)]

/-- One more event. Warnings and errors are counted and kept, and all else changes nothing. -/
theorem Records.recordEvent (records : d.Records events) (event : Event) :
    (d.recordEvent event).Records (events ++ [event]) := by
  have kept (counted : Diagnostics) (same : counted.messages = d.messages)
      (is_reported : event.level.isReported = true) : (counted.keep (entry event)).messages =
        ((reported (events ++ [event])).map entry).take retained := by
    rw [reported_append_singleton, if_pos is_reported, List.map_append]
    exact keep_messages (same.trans records.messages) _
  have passed (unreported : event.level.isReported = false) :
      d.messages = ((reported (events ++ [event])).map entry).take retained := by
    rw [reported_append_singleton, unreported, if_neg Bool.false_ne_true, List.append_nil,
      records.messages]
  cases level : event.level with
  | warn =>
    have step : d.recordEvent event =
        { d with warnings := d.warnings + 1 }.keep (entry event) := by
      simp only [Diagnostics.recordEvent, record, entry, level]
    rw [step]
    exact ⟨by simp [level, records.warnings], by simp [level, records.errors],
      kept _ rfl (by rw [level]; rfl)⟩
  | error =>
    have step : d.recordEvent event =
        { d with errors := d.errors + 1 }.keep (entry event) := by
      simp only [Diagnostics.recordEvent, record, entry, level]
    rw [step]
    exact ⟨by simp [level, records.warnings], by simp [level, records.errors],
      kept _ rfl (by rw [level]; rfl)⟩
  | trace | debug | info | off =>
    have step : d.recordEvent event = d := by
      simp only [Diagnostics.recordEvent, record, level]
    rw [step]
    exact ⟨by simp [level, records.warnings], by simp [level, records.errors],
      passed (by rw [level]; rfl)⟩

/-- A run of events, on top of those that are already recorded. -/
theorem Records.foldl (records : d.Records events) (more : List Event) :
    (more.foldl Diagnostics.recordEvent d).Records (events ++ more) := by
  induction more generalizing d events with
  | nil => rwa [List.foldl_nil, List.append_nil]
  | cons event more ih =>
    have next := ih (records.recordEvent event)
    rwa [List.append_assoc] at next

theorem records_ofEvents (events : List Event) : (ofEvents events).Records events :=
  records_nil.foldl events

namespace Records

theorem length_messages (records : d.Records events) :
    d.messages.length = min (reported events).length retained := by
  rw [records.messages, List.length_take, List.length_map, Nat.min_comm]

theorem sum (records : d.Records events) : d.warnings + d.errors = (reported events).length := by
  rw [records.warnings, records.errors, countP_warn_add_countP_error]

theorem omitted (records : d.Records events) :
    d.omitted = (reported events).length - retained := by
  rw [Diagnostics.omitted, records.sum, records.length_messages]
  omega

theorem isEmpty_messages (records : d.Records events) :
    d.messages.isEmpty = true ↔ reported events = [] := by
  rw [List.isEmpty_iff, ← List.length_eq_zero_iff, records.length_messages,
    ← List.length_eq_zero_iff]
  simp only [retained]
  omega

end Records

/-- All that a report says of the events of a run: exact counts, the first hundred warnings and errors
in order, each on a line of its own, and how many more there were. -/
structure Accounts (d : Diagnostics) (events : List Event) : Prop where
  warnings : d.warnings = events.countP (·.level = .warn)
  errors : d.errors = events.countP (·.level = .error)
  messages : List.Forall₂ (fun event message => ∃ text, event.Spelled text ∧
      message = event.level.label ++ " " ++ event.target ++ ": " ++ text)
    ((reported events).take 100) d.messages
  silent : d.report = none ↔ (reported events).length = 0
  lists : ∀ text, d.report = some text →
    text = String.join (d.messages.map fun message => "  " ++ message ++ "\n") ++
      if 100 < (reported events).length
      then "  ... and " ++ toString ((reported events).length - 100) ++ " more\n" else ""
  complete : d.messages.length + d.omitted = d.warnings + d.errors

/-- No warning and no error is lost, at and past the number of messages that are kept. -/
theorem accounts_ofEvents (events : List Event) : (ofEvents events).Accounts events := by
  have records := records_ofEvents events
  generalize ofEvents events = d at records ⊢
  refine ⟨records.warnings, records.errors, ?_, ?_, ?_, ?_⟩
  · rw [records.messages, retained, ← List.map_take, List.forall₂_map_right_iff,
      List.forall₂_same]
    exact fun event _ => ⟨event.text, event.spelled_text, rfl⟩
  · rw [report, List.length_eq_zero_iff, ← records.isEmpty_messages]
    split <;> simp [*]
  · intro text reports
    rw [report] at reports
    split at reports
    · cases reports
    · rw [← Option.some.inj reports, records.omitted, retained]
      by_cases past : 100 < (reported events).length
      · rw [if_pos past, if_neg (by omega)]
      · rw [if_neg past, if_pos (by omega)]
  · rw [records.omitted, records.length_messages, records.sum]
    omega

end Diagnostics

end Bindings.Log
