/-
**Units: a direction for the model and what to do with its answer.**

A unit has a name, metadata entries, and a match block: arms that each pair a pattern with an action.
Names are compared by their folding (`nameKey`), so their letter case never counts.
-/

import PromptChain.Pattern
import PromptChain.Template

namespace PromptChain

/-- The key under which a name is known. -/
def nameKey (name : String) : String := Text.fold name

inductive Action where
  /-- Run a command. -/
  | shell (command : String)
  /-- Call units, one after the other. -/
  | call (targets : List String)
  /-- Run a command, take its output for the answer, and call units. -/
  | pipe (command : String) (targets : List String)
deriving DecidableEq

def Action.targets : Action → List String
  | .shell _ => []
  | .call targets => targets
  | .pipe _ targets => targets

/-- A pattern with its action, and the line on which it stands. -/
structure Arm where
  pattern : Pattern
  action : Action
  line : Nat := 0
deriving DecidableEq

/-- A metadata entry with the place of its key. -/
structure MetaEntry where
  key : String
  text : String
  line : Nat := 0
  column : Nat := 0
deriving DecidableEq

def entryText? (entries : List MetaEntry) (key : String) : Option String :=
  (entries.find? fun entry => entry.key == key).map MetaEntry.text

/-- The known metadata keys, in the order in which they are written. -/
def metadataKeys : List String := ["description", "direction", "eager", "history"]

/-- The metadata of a unit once it has been checked. -/
structure Metadata where
  description : String := ""
  direction : Template
  eager : Bool := false
  history : Bool := true
deriving DecidableEq

structure PromptUnit where
  name : String
  entries : List MetaEntry
  /-- The variable that the arms are matched against. -/
  subject : String
  arms : List Arm
  line : Nat := 0
  column : Nat := 0
  source : Option String := none
  /-- The metadata, once checked. -/
  metadata : Option Metadata := none
deriving DecidableEq

def PromptUnit.key (unit : PromptUnit) : String := nameKey unit.name

/-- Whether a unit is started without being asked for. -/
def PromptUnit.eager (unit : PromptUnit) : Bool := unit.metadata.elim false Metadata.eager

/-- Whether a unit sees the conversation of its caller. -/
def PromptUnit.history (unit : PromptUnit) : Bool := unit.metadata.elim true Metadata.history

end PromptChain
