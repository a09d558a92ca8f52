/-
**Programs: units by name.**

A program holds the units that are loaded, the faults of those that were refused, and every load
error in the order in which it was found. A name is taken once and for all by the first unit that has
it, even if that unit is blocked later (`Program.addUnit`).
-/

import PromptChain.CallGraph
import PromptChain.Fault

namespace PromptChain

/-- Named units of one or more sources. -/
structure Program where
  /-- The loaded units by key. -/
  units : Assoc PromptUnit := []
  /-- Why a unit was refused, by key. -/
  blocked : Assoc Fault := []
  loadErrors : List Fault := []
  /-- The labels of the sources that were read. -/
  sources : List String := []
  /-- The call graph of the last analysis. -/
  graph : Option CallGraph := none

namespace Program

/-- The unit of a name, whose letter case does not count. -/
def lookup (program : Program) (name : String) : Option PromptUnit :=
  Assoc.get? program.units (nameKey name)

def loaded (program : Program) : List PromptUnit := program.units.map Prod.snd

def names (program : Program) : List String := program.loaded.map PromptUnit.name

/-- The units that are started without being asked for. -/
def eagerUnits (program : Program) : List PromptUnit := program.loaded.filter PromptUnit.eager

def setUnit (program : Program) (unit : PromptUnit) : Program :=
  { program with units := Assoc.set program.units unit.key unit }

def block (program : Program) (unit : PromptUnit) (fault : Fault) : Program :=
  { program with
    units := Assoc.erase program.units unit.key
    blocked := Assoc.set program.blocked unit.key fault
    loadErrors := program.loadErrors ++ [fault] }

/-- The wording for a name that is taken, with the line of the unit that has it. -/
def duplicateMessage (name : String) (firstLine : Option Nat) : String :=
  let place := match firstLine with
    | some line => " (first defined at line " ++ toString line ++ ")"
    | none => ""
  "Duplicate unit '" ++ name ++ "'" ++ place

def locationOf (unit : PromptUnit) : Location where
  line := some unit.line
  column := some unit.column
  source := unit.source

def addUnit (program : Program) (unit : PromptUnit) : Program :=
  let existing := program.lookup unit.name
  if existing.isSome || Assoc.has program.blocked unit.key then
    let message := duplicateMessage unit.name (existing.map PromptUnit.line)
    { program with
      loadErrors := program.loadErrors ++ [.source .duplicateUnit message (locationOf unit)] }
  else program.setUnit unit

def addUnits (program : Program) (units : List PromptUnit) : Program :=
  units.foldl addUnit program

end Program

end PromptChain
