/-
**Transcripts are read back from their texts.**

A reader gives back what was written if the readers of its parts do: for the fields of a record
(`Shape.required_of_read`, `Shape.optional_of_read`), for a list and for a map (`Shape.list_of_read`,
`Shape.map_of_read`). So sessions and reports are read back from their records (`Session.read_toRecord`,
`Report.read_toRecord`), except that a duration which is no number is written as nothing, and refused
(`Report.read_toRecord_of_noNumber`). The text of a transcript is that of its record, and is read as
this record again; so a transcript is read back from its text (`Transcript.ofText?_text`).
-/

import PromptChain.Proofs.Assoc
import PromptChain.Proofs.JsonValues

namespace PromptChain

/-! ### What readers give back -/

namespace Shape

variable {α β : Type}

/-- A record with distinct keys is read from its fields as they stand. -/
theorem record_obj (type : String) (reader : List (String × Json) → Checked α)
    {fields : List (String × Json)} (distinct : Assoc.Distinct fields) :
    record type reader (.obj fields) = reader fields := by
  rw [record, Assoc.ofPairs_of_distinct distinct]

theorem text_str (value : String) : text (.str value) = .ok value := rfl

theorem with_of_ok {function : Checked (α → β)} {argument : Checked α} {f : α → β} {a : α}
    (isFunction : function = .ok f) (isArgument : argument = .ok a) :
    Checked.with function argument = .ok (f a) := by
  rw [isFunction, isArgument]
  rfl

/-- One refused part is enough for the whole to be refused. -/
theorem with_of_error (function : Checked (α → β)) {argument : Checked α} {problems : List Problem}
    (isRefused : argument = .error problems) : ∃ more, Checked.with function argument = .error more := by
  rw [isRefused]
  cases function <;> exact ⟨_, rfl⟩

section Fields

variable {reader : Reader α} {fields : List (String × Json)} {key : String} {value : Json} {a : α}

/-- A required field is read if its value is. -/
theorem required_of_read (found : Assoc.get? fields key = some value) (read : reader value = .ok a) :
    required reader fields key = .ok a := by
  rw [required, found]
  simp only [read]
  rfl

/-- The problems of a required field are told under its key. -/
theorem required_of_refused {problems : List Problem} (found : Assoc.get? fields key = some value)
    (refused : reader value = .error problems) :
    required reader fields key = .error (within (.field key) problems) := by
  rw [required, found]
  simp only [refused]
  rfl

/-- A field that may be left out is read if it is there and its value is read. -/
theorem optional_of_read {otherwise : α} (found : Assoc.get? fields key = some value)
    (read : reader value = .ok a) : optional reader otherwise fields key = .ok a := by
  rw [optional, found]
  simp only [read]
  rfl

end Fields

section Collections

variable {reader : Reader α} {write : α → Json} (read : ∀ a, reader (write a) = .ok a)

include read

/-- A list is read back if its items are. -/
theorem list_of_read (items : List α) : list reader (.arr (items.map write)) = .ok items := by
  have fromIndex (index : Nat) : itemsFrom reader index (items.map write) = .ok items := by
    induction items generalizing index with
    | nil => rfl
    | cons item items ih =>
      rw [List.map_cons, itemsFrom, read, ih]
      rfl
  exact fromIndex 0

/-- A map is read back if its values are. -/
theorem map_of_read {values : Assoc α} (distinct : Assoc.Distinct values) :
    map reader (.obj (values.map fun entry => (entry.1, write entry.2))) = .ok values := by
  have isRead (values : Assoc α) :
      valuesOf reader (values.map fun entry => (entry.1, write entry.2)) = .ok values := by
    induction values with
    | nil => rfl
    | cons entry values ih =>
      rw [List.map_cons, valuesOf, read, ih]
      rfl
  rw [map, isRead]
  simp only [Assoc.ofPairs_of_distinct distinct]

end Collections

end Shape

open Shape (with_of_ok required_of_read optional_of_read)

/-! ### Sessions, reports and transcripts -/

namespace Session

/-- A text that may be missing is read back. -/
theorem nullable_optionalText (text : Option String) :
    Shape.nullable Shape.text (optionalText text) = .ok text := by
  cases text <;> rfl

/-- A turn is read back from its record. -/
theorem readTurn_turnRecord (turn : Turn) : readTurn (turnRecord turn) = .ok turn := by
  rw [readTurn, turnRecord, Shape.record_obj _ _ (by simp [Assoc.Distinct, Assoc.keys])]
  refine with_of_ok (with_of_ok (with_of_ok rfl ?_) ?_) ?_
  · exact required_of_read rfl (Shape.text_str turn.direction)
  · exact required_of_read rfl (Shape.text_str turn.answer)
  · exact optional_of_read rfl (nullable_optionalText turn.unit)

/-- Variables are read back from their record. -/
theorem map_bindingsRecord {bindings : Bindings} (distinct : Assoc.Distinct bindings) :
    Shape.map Shape.text (bindingsRecord bindings) = .ok bindings :=
  Shape.map_of_read Shape.text_str distinct

/-- **A session is read back from its record.** -/
theorem read_toRecord (session : Session) (distinct : Assoc.Distinct session.bindings) :
    Session.read session.toRecord = .ok session := by
  rw [Session.read, toRecord, Shape.record_obj _ _ (by simp [Assoc.Distinct, Assoc.keys])]
  refine with_of_ok (with_of_ok rfl ?_) ?_
  · exact optional_of_read rfl (Shape.list_of_read readTurn_turnRecord session.turns)
  · exact optional_of_read rfl (map_bindingsRecord distinct)

end Session

namespace Report

open Shape (choice)

theorem list_textsRecord (texts : List String) :
    Shape.list Shape.text (textsRecord texts) = .ok texts :=
  Shape.list_of_read Shape.text_str texts

/-- An outcome is read back from its name. -/
theorem choice_outcome (outcome : Outcome) :
    choice Outcome.all Outcome.name (.str outcome.name) = .ok outcome := by
  cases outcome <;> rfl

theorem choice_state (state : ChainState) :
    choice ChainState.all ChainState.name (.str state.name) = .ok state := by
  cases state <;> rfl

/-- States are read back from their names. -/
theorem list_states (states : List ChainState) :
    Shape.list (choice ChainState.all ChainState.name) (textsRecord (states.map ChainState.name))
      = .ok states := by
  rw [textsRecord, List.map_map]
  exact Shape.list_of_read choice_state states

/-- Whether the duration of a report is a number, neither infinite nor undefined. -/
def isTimed (report : Report) : Bool := !(report.duration.isNaN || report.duration.isInf)

/-- **A report is read back from its record** if its duration is a number. -/
theorem read_toRecord (report : Report) (distinct : Assoc.Distinct report.bindings)
    (timed : report.isTimed = true) : Report.read report.toRecord = .ok report := by
  have isFloat : Shape.float (numberRecord report.duration) = .ok report.duration := by
    rw [isTimed, Bool.not_eq_true'] at timed
    rw [numberRecord, if_neg (Bool.eq_false_iff.mp timed)]
    rfl
  rw [Report.read, toRecord, Shape.record_obj _ _ (by simp [Assoc.Distinct, Assoc.keys])]
  dsimp only
  refine with_of_ok (with_of_ok (with_of_ok (with_of_ok (with_of_ok (with_of_ok (with_of_ok (with_of_ok
    (with_of_ok (with_of_ok rfl ?_) ?_) ?_) ?_) ?_) ?_) ?_) ?_) ?_) ?_
  · exact required_of_read rfl (Shape.text_str report.unit)
  · exact required_of_read rfl (choice_outcome report.outcome)
  · exact optional_of_read rfl (list_textsRecord report.trail)
  · exact optional_of_read rfl (Session.nullable_optionalText report.answer)
  · exact optional_of_read rfl (Session.map_bindingsRecord distinct)
  · exact optional_of_read rfl (list_textsRecord report.warnings)
  · exact optional_of_read rfl (list_textsRecord report.outputs)
  · exact optional_of_read rfl (Session.nullable_optionalText report.error)
  · exact optional_of_read rfl (list_states report.states)
  · exact optional_of_read rfl isFloat

/-- The record of a report whose duration is no number is refused: it has nothing in its place. -/
theorem read_toRecord_of_noNumber (report : Report) (untimed : report.isTimed = false) :
    ∃ problems, Report.read report.toRecord = .error problems := by
  have isNull : numberRecord report.duration = .null := by
    rw [isTimed, Bool.not_eq_false'] at untimed
    rw [numberRecord, if_pos untimed]
  rw [Report.read, toRecord, Shape.record_obj _ _ (by simp [Assoc.Distinct, Assoc.keys]), isNull]
  exact Shape.with_of_error _ rfl

end Report

namespace Transcript

/-- **A transcript is read back from its record.** -/
theorem read_toRecord (transcript : Transcript) (distinct : Assoc.Distinct transcript.session.bindings)
    (distinctToo : Assoc.Distinct transcript.report.bindings) (timed : transcript.report.isTimed = true) :
    read transcript.toRecord = .ok transcript := by
  rw [read, toRecord, Shape.record_obj _ _ (by simp [Assoc.Distinct, Assoc.keys])]
  dsimp only
  refine with_of_ok (with_of_ok (with_of_ok (with_of_ok rfl ?_) ?_) ?_) ?_
  · exact required_of_read rfl (Shape.text_str transcript.unit)
  · exact required_of_read rfl (Shape.text_str transcript.timestamp)
  · exact required_of_read rfl (transcript.session.read_toRecord distinct)
  · exact required_of_read rfl (transcript.report.read_toRecord distinctToo timed)

theorem read_toRecord_of_noNumber (transcript : Transcript)
    (untimed : transcript.report.isTimed = false) :
    ∃ problems, read transcript.toRecord = .error problems := by
  obtain ⟨problems, isRefused⟩ := transcript.report.read_toRecord_of_noNumber untimed
  rw [read, toRecord, Shape.record_obj _ _ (by simp [Assoc.Distinct, Assoc.keys])]
  exact Shape.with_of_error _ (Shape.required_of_refused rfl isRefused)

end Transcript

/-! ### Records as texts -/

open Json (Readable readable_null readable_str readable_float readable_arr readable_obj)

namespace Session

theorem readable_optionalText (depth : Nat) (text : Option String) :
    Readable depth (optionalText text) := by
  cases text with
  | none => exact readable_null depth
  | some text => exact readable_str depth text

/-- Variables are one level of fields. -/
theorem readable_bindingsRecord (depth : Nat) (bindings : Bindings) :
    Readable (depth + 1) (bindingsRecord bindings) := by
  refine readable_obj _ fun entry member => ?_
  obtain ⟨binding, _, rfl⟩ := List.mem_map.mp member
  exact readable_str depth binding.2

/-- The record of a turn is one level of fields. -/
theorem readable_turnRecord (turn : Turn) : Readable 1 (turnRecord turn) := by
  refine readable_obj _ fun entry member => ?_
  simp only [List.mem_cons, List.not_mem_nil, or_false] at member
  rcases member with rfl | rfl | rfl
  · exact readable_str 0 turn.direction
  · exact readable_str 0 turn.answer
  · exact readable_optionalText 0 turn.unit

/-- A session: turns in a list in a field. -/
theorem readable_toRecord (session : Session) : Readable 3 session.toRecord := by
  refine readable_obj _ fun entry member => ?_
  simp only [List.mem_cons, List.not_mem_nil, or_false] at member
  rcases member with rfl | rfl
  · refine readable_arr _ fun value member => ?_
    obtain ⟨turn, _, rfl⟩ := List.mem_map.mp member
    exact readable_turnRecord turn
  · exact readable_bindingsRecord 1 session.bindings

end Session

namespace Report

theorem readable_textsRecord (depth : Nat) (texts : List String) :
    Readable (depth + 1) (textsRecord texts) := by
  refine readable_arr _ fun value member => ?_
  obtain ⟨text, _, rfl⟩ := List.mem_map.mp member
  exact readable_str depth text

/-- A number is written so that it is read back, or as nothing. -/
theorem readable_numberRecord (depth : Nat) (value : Float) : Readable depth (numberRecord value) := by
  rw [numberRecord]
  split
  · exact readable_null depth
  · rename_i isNumber
    exact readable_float depth (Bool.eq_false_iff.mpr isNumber)

theorem readable_toRecord (report : Report) : Readable 2 report.toRecord := by
  refine readable_obj _ fun entry member => ?_
  simp only [List.mem_cons, List.not_mem_nil, or_false] at member
  rcases member with rfl | rfl | rfl | rfl | rfl | rfl | rfl | rfl | rfl | rfl
  · exact readable_str 1 report.unit
  · exact readable_str 1 report.outcome.name
  · exact readable_textsRecord 0 report.trail
  · exact Session.readable_optionalText 1 report.answer
  · exact Session.readable_bindingsRecord 0 report.bindings
  · exact readable_textsRecord 0 report.warnings
  · exact readable_textsRecord 0 report.outputs
  · exact Session.readable_optionalText 1 report.error
  · exact readable_textsRecord 0 (report.states.map ChainState.name)
  · exact readable_numberRecord 1 report.duration

end Report

namespace Transcript

/-- A transcript holds a session and a report. -/
theorem readable_toRecord (transcript : Transcript) : Readable 4 transcript.toRecord := by
  refine readable_obj _ fun entry member => ?_
  simp only [List.mem_cons, List.not_mem_nil, or_false] at member
  rcases member with rfl | rfl | rfl | rfl
  · exact readable_str 3 transcript.unit
  · exact readable_str 3 transcript.timestamp
  · exact transcript.session.readable_toRecord
  · exact (transcript.report.readable_toRecord).deeper (by decide)

/-- The text of a transcript has no carriage return, so a file keeps its lines. -/
theorem return_notMem_text (transcript : Transcript) : '\r' ∉ transcript.text.toList := by
  rw [text, Json.pretty, String.toList_ofList]
  exact transcript.readable_toRecord.noReturn 0

/-- A transcript is read from a text as from its record. -/
theorem ofText?_text_eq_read (transcript : Transcript) :
    ofText? transcript.text = (read transcript.toRecord).toOption := by
  have readable := transcript.readable_toRecord
  obtain ⟨isRead, fits⟩ := readable.readAll_pretty
  have shallow : transcript.toRecord.depth ≤ deepest := readable.shallow.trans (by decide)
  rw [ofText?, text, isRead]
  simp only [readable.isWhole, fits, decide_eq_true shallow, Bool.and_self, if_true]

/-- **A transcript is read back from its text** if the duration is a number; else the text is refused. -/
theorem ofText?_text (transcript : Transcript) (distinct : Assoc.Distinct transcript.session.bindings)
    (distinctToo : Assoc.Distinct transcript.report.bindings) :
    ofText? transcript.text = if transcript.report.isTimed then some transcript else none := by
  rw [ofText?_text_eq_read]
  cases isTimed : transcript.report.isTimed with
  | true =>
    rw [transcript.read_toRecord distinct distinctToo isTimed]
    rfl
  | false =>
    obtain ⟨problems, isRefused⟩ := transcript.read_toRecord_of_noNumber isTimed
    rw [isRefused]
    rfl

end Transcript

end PromptChain
