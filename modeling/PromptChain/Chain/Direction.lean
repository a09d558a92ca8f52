/-
**From a template to a direction.**

The commands of a template run first, in order; then variables are inserted into its plain parts. What
a command printed goes in verbatim, without the newline at its end (`resolve`).
-/

import PromptChain.Chain.Query
import PromptChain.Template

namespace PromptChain

/-- A part of a template whose commands have run. -/
inductive FilledPart where
  | text (plain : String)
  | output (printed : String)

/-- Reports a command that failed. -/
def reportFailure (report : Fault → Act Unit) (command : String) (result : CommandResult) : Act Unit :=
  if result.ok then pure () else report (.commandFailed command (some result))

/-- Runs the commands of segments in order. A command that fails is reported. -/
def runSegments (report : Fault → Act Unit) (unit : Option String) (workplace : Workplace) :
    List Segment → Act (List FilledPart)
  | [] => pure []
  | .text plain :: rest => do
    let parts ← runSegments report unit workplace rest
    pure (.text plain :: parts)
  | .shell command :: rest => do
    let bindings := (← Act.running).session.bindings
    let command ← Act.ofExcept (interpolate bindings unit command)
    let result ← Act.run ⟨.direction, command, exportEnv bindings, workplace⟩
    reportFailure report command result
    let parts ← runSegments report unit workplace rest
    pure (.output (trimOutput result.stdout) :: parts)

/-- Inserts variables into the plain parts and puts all parts together. -/
def fillParts (bindings : Bindings) (unit : Option String) : List FilledPart → Except Fault String
  | [] => .ok ""
  | .output printed :: rest =>
    match fillParts bindings unit rest with
    | .ok text => .ok (printed ++ text)
    | .error fault => .error fault
  | .text plain :: rest =>
    match interpolate bindings unit plain with
    | .error fault => .error fault
    | .ok first =>
      match fillParts bindings unit rest with
      | .ok text => .ok (first ++ text)
      | .error fault => .error fault

/-- The direction that a template gives. -/
def resolve (report : Fault → Act Unit) (unit : Option String) (workplace : Workplace)
    (template : Template) : Act String := do
  let parts ← runSegments report unit workplace template.segments
  let bindings := (← Act.running).session.bindings
  Act.ofExcept (fillParts bindings unit parts)

end PromptChain
