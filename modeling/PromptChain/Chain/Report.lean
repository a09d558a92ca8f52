/-
**What is reported of a chain that has ended.**
-/

import PromptChain.Chain.State
import PromptChain.Session

namespace PromptChain

/-- What is reported of a chain. -/
structure Report where
  unit : String
  outcome : Outcome
  trail : List String := []
  answer : Option String := none
  bindings : Bindings := []
  warnings : List String := []
  outputs : List String := []
  error : Option String := none
  states : List ChainState := []
  /-- How long the chain took, in milliseconds. -/
  duration : Float := 0.0

namespace Report

/-- Whether a chain did all it was to do. -/
def ok (report : Report) : Bool := report.outcome == .success

/-- The exit code of a chain. -/
def exitCode (report : Report) : Nat := report.outcome.exitCode

/-- What is said about the end of a chain behind its outcome. -/
def detail (report : Report) : String :=
  match report.error.filter (· != "") with
  | some error => ": " ++ error
  | none => ""

/-! ### As a record -/

open Shape in
/-- Reads a report from a record. -/
def read : Reader Report := record "ChainReport" fun fields =>
  let texts := Shape.list Shape.text
  let maybeText := nullable Shape.text
  let first := (Checked.with (.ok Report.mk) (required Shape.text fields "unit")).with
    (required (choice Outcome.all Outcome.name) fields "outcome")
  let second := ((first.with (optional texts [] fields "trail")).with
    (optional maybeText none fields "answer")).with (optional (Shape.map Shape.text) [] fields "bindings")
  let third := ((second.with (optional texts [] fields "warnings")).with
    (optional texts [] fields "outputs")).with (optional maybeText none fields "error")
  (third.with (optional (Shape.list (choice ChainState.all ChainState.name)) [] fields "states")).with
    (optional Shape.float 0.0 fields "duration_ms")

/-- Texts as a record. -/
def textsRecord (texts : List String) : Json := .arr (texts.map .str)

/-- A number as a record; one that is not finite is null. -/
def numberRecord (value : Float) : Json :=
  if value.isNaN || value.isInf then .null else .float value

/-- A report as a record. -/
def toRecord (report : Report) : Json :=
  .obj [("unit", .str report.unit), ("outcome", .str report.outcome.name),
    ("trail", textsRecord report.trail), ("answer", Session.optionalText report.answer),
    ("bindings", Session.bindingsRecord report.bindings), ("warnings", textsRecord report.warnings),
    ("outputs", textsRecord report.outputs), ("error", Session.optionalText report.error),
    ("states", textsRecord (report.states.map ChainState.name)),
    ("duration_ms", numberRecord report.duration)]

end Report

end PromptChain
