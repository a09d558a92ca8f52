/-
**Loading sources.**

`load` reads every source, puts the units of all of them together and checks the result. A source that
cannot be parsed gives no units; its fault is recorded, or ends the load when `strict`. What else can go
wrong, a file that cannot be read above all, ends the load in any case (`LoadError`).
-/

import PromptChain.Analysis
import PromptChain.Files.Tree
import PromptChain.Source.Units

namespace PromptChain

inductive SourceInput where
  | text (content : String)
  | file (path : Files.Path)

inductive LoadError where
  | fault (fault : Fault)
  /-- A regular expression exceeds a limit of the notation. -/
  | beyondLimit (delimiter : Delimiter) (failure : Regex.Failure)
  | unreadable (path : String) (issue : Files.Issue)
  | notText (error : Text.Utf8Error)
  /-- A backtick in a direction is not closed. -/
  | unterminatedShell

def LoadError.message : LoadError → String
  | .fault found => found.text
  | .beyondLimit delimiter failure => Source.limitMessage delimiter failure
  | .unreadable path issue => issue.message path
  | .notText error => error.message
  | .unterminatedShell => Template.unterminated

def LoadError.ofAnalysis : Program.AnalysisError → LoadError
  | .unreadableDirection => .unterminatedShell
  | .refused found => .fault found

/-- A text in which every line end is a newline. -/
def universalNewlines (text : String) : String :=
  String.ofList ((Source.normalizeNewlines text.toList).map fun c => if c = '\r' then '\n' else c)

def readText (tree : Files.Tree) (here : Files.Place) (path : Files.Path) :
    Except LoadError String :=
  match tree.read here path with
  | .error issue => .error (.unreadable path.text issue)
  | .ok bytes =>
    match Text.decode bytes with
    | .error error => .error (.notText error)
    | .ok text => .ok (universalNewlines text)

def SourceInput.label : SourceInput → String
  | .text _ => "<string>"
  | .file path => path.text

def unitsOfContent (origin : Option String) (content : String) : Except LoadError (List PromptUnit) :=
  match Source.parseUnits origin content with
  | .ok units => .ok units
  | .error (.fault fault) => .error (.fault fault)
  | .error (.beyondLimit delimiter failure) => .error (.beyondLimit delimiter failure)

def SourceInput.units (tree : Files.Tree) (here : Files.Place) :
    SourceInput → Except LoadError (List PromptUnit)
  | .text content => unitsOfContent none content
  | .file path =>
    match readText tree here path with
    | .error error => .error error
    | .ok content => unitsOfContent (some path.text) content

def addSource (program : Program) (source : SourceInput) (units : List PromptUnit) : Program :=
  { program with sources := program.sources ++ [source.label] }.addUnits units

def readSources (tree : Files.Tree) (here : Files.Place) (strict : Bool) (program : Logged Program) :
    List SourceInput → List LogLine × Except LoadError Program
  | [] => (program.log, .ok program.value)
  | source :: rest =>
    match source.units tree here with
    | .ok units =>
      readSources tree here strict { program with value := addSource program.value source units } rest
    | .error (.fault fault) =>
      if strict then (program.log, .error (.fault fault))
      else
        readSources tree here strict
          { value := { program.value with loadErrors := program.value.loadErrors ++ [fault] }
            log := program.log ++ [⟨.error, "[load] " ++ fault.text⟩] }
          rest
    | .error error => (program.log, .error error)

/-- Loads sources into a checked program; the log comes in any case. -/
def load (tree : Files.Tree) (here : Files.Place) (strict : Bool) (sources : List SourceInput) :
    List LogLine × Except LoadError Program :=
  match readSources tree here strict ⟨{}, []⟩ sources with
  | (log, .error error) => (log, .error error)
  | (log, .ok program) =>
    match program.analyze strict with
    | (result, none) => (log ++ result.log, .ok result.value)
    | (result, some error) => (log ++ result.log, .error (.ofAnalysis error))

end PromptChain
