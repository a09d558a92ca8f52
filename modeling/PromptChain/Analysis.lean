/-
**Putting a program together.**

`Program.analyze` checks the metadata of every unit, then every call. A unit with bad metadata is
blocked, and so is every unit that calls a name without a unit, and every unit from which calls lead to
such a unit. Cycles of calls are reported and block nothing.
-/

import PromptChain.Log
import PromptChain.Metadata
import PromptChain.Program

namespace PromptChain

/-- A value with the log lines that came with it. -/
structure Logged (α : Type) where
  value : α
  log : List LogLine

namespace Program

/-! ### Faults of single units -/

def noArmsMessage (name : String) : String := "Unit '" ++ name ++ "' has an empty match block"

def blockedLine (unit : PromptUnit) (fault : Fault) : LogLine :=
  ⟨.error, "[load] unit '" ++ unit.name ++ "' blocked: " ++ fault.text⟩

def blockLogged (program : Logged Program) (unit : PromptUnit) (fault : Fault) : Logged Program where
  value := program.value.block unit fault
  log := program.log ++ [blockedLine unit fault]

inductive UnitCheck where
  | passed (metadata : Metadata)
  | refused (fault : Fault)
  /-- The direction cannot be read at all. -/
  | unreadable

def checkUnit (unit : PromptUnit) : UnitCheck :=
  match Metadata.ofEntries unit.entries with
  | .error .unterminatedShell => .unreadable
  | .error failure => .refused (.invalidMetadata (failure.message unit.name) (locationOf unit))
  | .ok metadata =>
    if unit.arms.isEmpty then .refused (.invalidMetadata (noArmsMessage unit.name) {})
    else .passed metadata

/-- Checks units in order; false if one cannot be read at all, which ends the check. -/
def checkUnits (program : Logged Program) : List PromptUnit → Logged Program × Bool
  | [] => (program, true)
  | unit :: rest =>
    match checkUnit unit with
    | .passed metadata =>
      checkUnits { program with value := program.value.setUnit { unit with metadata := some metadata } }
        rest
    | .refused fault => checkUnits (blockLogged program unit fault) rest
    | .unreadable => (program, false)

/-! ### Faults of calls -/

/-- Why a unit cannot load although its metadata is good. -/
inductive ReferenceProblem where
  /-- It calls a name that has no unit; `failed` says that the unit of that name was refused. -/
  | missing (target : String) (failed : Bool)
  /-- Calls lead from it to a unit that cannot load. -/
  | dependsOn (name : String)

def ReferenceProblem.message (unit : String) : ReferenceProblem → String
  | missing target failed =>
    "Unit '" ++ unit ++ "' calls '" ++ target ++ "', which "
      ++ (if failed then "failed to load" else "is not defined")
  | dependsOn name => "Unit '" ++ unit ++ "' depends on '" ++ name ++ "', which cannot load"

/-- The faults of units that call a name without a unit: for each the first such call. -/
def missingTargets (program : Program) (graph : CallGraph) : Assoc Fault :=
  graph.dangling.foldl
    (fun bad edge =>
      match program.lookup edge.caller with
      | none => bad
      | some unit =>
        if Assoc.has bad edge.caller then bad
        else
          let problem := ReferenceProblem.missing edge.target
            (Assoc.has program.blocked (nameKey edge.target))
          Assoc.set bad edge.caller
            (.source .unresolvedReference (problem.message unit.name)
              { line := some edge.line, source := unit.source }))
    []

/-- Adds the faults of the units from which calls lead to a unit that cannot load. -/
def addDependents (program : Program) (graph : CallGraph) (bad : Assoc Fault) (key : String) :
    Assoc Fault :=
  (graph.callersOf key).foldl
    (fun bad caller =>
      match program.lookup caller, program.lookup key with
      | some unit, some broken =>
        if Assoc.has bad caller then bad
        else
          Assoc.set bad caller
            (.source .unresolvedReference
              ((ReferenceProblem.dependsOn broken.name).message unit.name) (locationOf unit))
      | _, _ => bad)
    bad

/-- The faults of all units that cannot load because of their calls, by key. -/
def brokenReferences (program : Program) (graph : CallGraph) : Assoc Fault :=
  let missing := program.missingTargets graph
  (Assoc.keys missing).foldl (addDependents program graph) missing

def blockAll (program : Logged Program) (bad : Assoc Fault) : Logged Program :=
  bad.foldl
    (fun program entry =>
      match program.value.lookup entry.1 with
      | some unit => blockLogged program unit entry.2
      | none => program)
    program

def checkCalls (program : Logged Program) : Logged Program :=
  let graph := CallGraph.ofUnits program.value.loaded
  let program := { program with value := { program.value with graph := some graph } }
  let program := blockAll program (program.value.brokenReferences graph)
  { program with
    log := program.log ++ graph.cycles.map fun cycle =>
      ⟨.warning, "[load] possible call cycle: " ++ CallGraph.cycleText cycle⟩ }

/-! ### The whole analysis -/

inductive AnalysisError where
  /-- A direction cannot be read. -/
  | unreadableDirection
  /-- There are load errors, and none is allowed; this is the first. -/
  | refused (fault : Fault)

/-- Checks all units of a program and all their calls. With `strict`, the first load error is an
error of the whole; the program is the one reached either way. -/
def analyze (program : Program) (strict : Bool) : Logged Program × Option AnalysisError :=
  match checkUnits ⟨program, []⟩ program.loaded with
  | (checked, false) => (checked, some .unreadableDirection)
  | (checked, true) =>
    let result := checkCalls checked
    match strict, result.value.loadErrors with
    | true, fault :: _ => (result, some (.refused fault))
    | _, _ => (result, none)

end Program

end PromptChain
