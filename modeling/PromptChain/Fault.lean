/-
**Faults of sources, units and chains.**

A `Fault` is everything that can go wrong with a prompt program: where it is read, when its units are
put together, and while a chain runs. `Fault.text` is the full wording with the place in front,
`Fault.message` the wording alone, and `Fault.place` the place as `source:line:column`.
-/

import PromptChain.Command
import PromptChain.Text.Blank

namespace PromptChain

/-- A place in a source; each part may be unknown. -/
structure Location where
  line : Option Int := none
  column : Option Int := none
  source : Option String := none

/-- The faults that name a place in a source. -/
inductive SourceFault where
  /-- The source cannot be read. -/
  | malformed
  /-- A call names a unit that is not there. -/
  | unresolvedReference
  /-- A name is taken already. -/
  | duplicateUnit
deriving DecidableEq

inductive Fault where
  | source (kind : SourceFault) (problem : String) (location : Location)
  /-- A metadata value is missing or bad. -/
  | invalidMetadata (problem : String) (location : Location)
  | unresolvedVariable (name : String) (unit : Option String)
  | commandFailed (command : String) (result : Option CommandResult)
  | modelUnavailable (problem : String)
  | cyclicInvocation (stack : List String) (target : String)
  | config (problem : String)
  | general (problem : String)

/-- The column that is shown: the first one if none, or zero, is known. -/
def Location.shownColumn (location : Location) : Int :=
  match location.column with
  | some column => if column = 0 then 1 else column
  | none => 1

def Location.named (location : Location) : Option String :=
  location.source.filter (· != "")

/-- A place in front of a message. -/
def Location.lead (location : Location) : String :=
  let place := match location.line with
    | some line => "line " ++ toString line ++ ", col " ++ toString location.shownColumn ++ ": "
    | none => ""
  match location.named with
  | some source => source ++ ": " ++ place
  | none => place

/-- What a failed command reports behind its name. -/
def failureDetail (result : CommandResult) : String :=
  let ending := if result.timedOut then " (timed out)" else " (exit " ++ toString result.exitCode ++ ")"
  if result.stderr = "" then ending
  else ending ++ ": " ++ String.ofList ((Text.trim result.stderr.toList).take 200)

def Fault.location : Fault → Location
  | .source _ _ location => location
  | .invalidMetadata _ location => location
  | _ => {}

/-- The full wording, with the place in front where the fault has one in its source. -/
def Fault.text : Fault → String
  | .source _ problem location => location.lead ++ problem
  | .invalidMetadata problem _ => problem
  | .unresolvedVariable name unit =>
    let place := match unit.filter (· != "") with
      | some unit => " in unit '" ++ unit ++ "'"
      | none => ""
    "Undefined variable $" ++ name ++ place
  | .commandFailed command result =>
    "Command failed" ++ (result.elim "" failureDetail) ++ ": " ++ command
  | .modelUnavailable problem => problem
  | .cyclicInvocation stack target =>
    "Cyclic invocation: " ++ String.intercalate " -> " (stack ++ [target])
  | .config problem => problem
  | .general problem => problem

def Fault.kind : Fault → String
  | .source .malformed _ _ => "PromptSyntaxError"
  | .source .unresolvedReference _ _ => "UnresolvedReference"
  | .source .duplicateUnit _ _ => "DuplicateUnit"
  | .invalidMetadata _ _ => "InvalidMetadata"
  | .unresolvedVariable _ _ => "UnresolvedVariable"
  | .commandFailed _ _ => "CommandFailed"
  | .modelUnavailable _ => "ModelUnavailable"
  | .cyclicInvocation _ _ => "CyclicInvocation"
  | .config _ => "ConfigError"
  | .general _ => "PromptError"

/-- The wording without the place; the full one if there is nothing else. -/
def Fault.message (fault : Fault) : String :=
  match fault with
  | .source _ problem _ => if problem = "" then fault.text else problem
  | _ => fault.text

/-- The place of a fault as `source:line:column`. -/
def Fault.place (fault : Fault) : String :=
  let location := fault.location
  let source := location.named.getD "<input>"
  match location.line with
  | some line => source ++ ":" ++ toString line ++ ":" ++ toString location.shownColumn
  | none => source

end PromptChain
