/-
**What can be asked on the command line.**

The commands with their options, and the request that arguments make (`readArguments`). Arguments that no
command takes are refused by the program as a whole, after the command itself has taken its own.
-/

import PromptChain.CommandLine.Arguments

namespace PromptChain.CommandLine

/-! ### Commands -/

/-- The option that asks for help. -/
def helpOption : OptionRule := ⟨["-h", "--help"], .help⟩

/-- An option with a value. -/
def valueOption (name : String) : OptionRule := ⟨[name], .value⟩

/-- An option without a value. -/
def flagOption (name : String) : OptionRule := ⟨[name], .flag⟩

/-- Lines as a text. -/
def textOfLines (lines : List String) : String := String.join (lines.map (· ++ "\n"))

/-- The arguments in front of a command. -/
def wholeGrammar : Grammar where
  program := "promptlang"
  usage := "usage: promptlang [-h] [-v] [-q] \x7brun,history,check,fmt,init-config\x7d ...\n"
  details := textOfLines
    ["Prompt language interpreter", "", "positional arguments:",
      "  \x7brun,history,check,fmt,init-config\x7d",
      "    run                 Run units from .pr files",
      "    history             Print the latest saved transcript of a unit",
      "    check               Parse and validate .pr files",
      "    fmt                 Re-serialize a .pr file",
      "    init-config         Write a default config file", "", "options:",
      "  -h, --help            show this help message and exit",
      "  -v, --verbose         Debug logging",
      "  -q, --quiet           Only log warnings and errors"]
  options := [helpOption, ⟨["-v", "--verbose"], .flag⟩, ⟨["-q", "--quiet"], .flag⟩]
  operand := "command"
  count := .command
  required := false

/-- The arguments of the command that runs units. -/
def runGrammar : Grammar where
  program := "promptlang run"
  usage := textOfLines
    ["usage: promptlang run [-h] [--unit UNIT] [--user USER] [--answer ANSWER]",
      "                      [--dry-run] [--save] [--resume] [--config CONFIG]",
      "                      files [files ...]"]
  details := textOfLines
    ["positional arguments:",
      "  files            Prompt files (e.g. examples/animal_house.pr)", "", "options:",
      "  -h, --help       show this help message and exit",
      "  --unit UNIT      Unit to invoke (default: every eager unit)",
      "  --user USER      Value of $USER",
      "  --answer ANSWER  Canned model answer; repeat for each model call",
      "  --dry-run        Log commands instead of running them",
      "  --save           Save transcripts to the state directory",
      "  --resume         Continue the conversation of the unit's latest saved",
      "                   transcript",
      "  --config CONFIG  Path of the JSON config file"]
  options :=
    [helpOption, valueOption "--unit", valueOption "--user", valueOption "--answer",
      flagOption "--dry-run", flagOption "--save", flagOption "--resume", valueOption "--config"]
  operand := "files"
  count := .atLeastOne
  required := true

/-- The arguments of the command that prints a transcript. -/
def historyGrammar : Grammar where
  program := "promptlang history"
  usage := "usage: promptlang history [-h] [--config CONFIG] unit\n"
  details := textOfLines
    ["positional arguments:", "  unit", "", "options:",
      "  -h, --help       show this help message and exit",
      "  --config CONFIG  Path of the JSON config file"]
  options := [helpOption, valueOption "--config"]
  operand := "unit"
  count := .one
  required := true

/-- The arguments of the command that checks files. -/
def checkGrammar : Grammar where
  program := "promptlang check"
  usage := "usage: promptlang check [-h] [--graph] files [files ...]\n"
  details := textOfLines
    ["positional arguments:", "  files", "", "options:",
      "  -h, --help  show this help message and exit",
      "  --graph     Print the static call graph as JSON"]
  options := [helpOption, flagOption "--graph"]
  operand := "files"
  count := .atLeastOne
  required := true

/-- The arguments of the command that formats a file. -/
def formatGrammar : Grammar where
  program := "promptlang fmt"
  usage := "usage: promptlang fmt [-h] [-w] file\n"
  details := textOfLines
    ["positional arguments:", "  file", "", "options:",
      "  -h, --help   show this help message and exit", "  -w, --write  Rewrite the file in place"]
  options := [helpOption, ⟨["-w", "--write"], .flag⟩]
  operand := "file"
  count := .one
  required := true

/-- The arguments of the command that writes a settings file. -/
def configGrammar : Grammar where
  program := "promptlang init-config"
  usage := "usage: promptlang init-config [-h] [path]\n"
  details := textOfLines
    ["positional arguments:", "  path", "", "options:", "  -h, --help  show this help message and exit"]
  options := [helpOption]
  operand := "path"
  count := .atMostOne
  required := false

/-! ### Requests -/

/-- Which units are run. -/
inductive UnitChoice where
  /-- Every eager one. -/
  | eager
  | named (name : String)
  /-- The option for it was given without a name. -/
  | nameless
deriving DecidableEq

/-- What is run, and how. -/
structure RunRequest where
  files : List String
  unit : UnitChoice := .eager
  user : String := ""
  answers : List String := []
  dry : Bool := false
  save : Bool := false
  resume : Bool := false
  config : Option String := none

/-- What a command does. -/
inductive Task where
  | run (request : RunRequest)
  | history (unit : String) (config : Option String)
  | check (files : List String) (graph : Bool)
  | format (file : String) (write : Bool)
  | initConfig (path : Option String)

/-- What is asked for, and how much is said about it. -/
inductive Request where
  | help
  | task (task : Task) (verbose quiet : Bool)

/-- The units that arguments choose. -/
def Parsed.unitChoice (parsed : Parsed) : UnitChoice :=
  match (parsed.values "--unit").getLast? with
  | none => .eager
  | some (some name) => .named name
  | some none => .nameless

/-- The commands by name, each with how its arguments make a task. -/
def commands : List (String × Grammar × (Parsed → Task)) :=
  [("run", runGrammar, fun parsed => .run
      { files := parsed.operands.getD [], unit := parsed.unitChoice
        user := (parsed.value? "--user").getD ""
        answers := (parsed.values "--answer").map (Option.getD · "")
        dry := parsed.has "--dry-run", save := parsed.has "--save", resume := parsed.has "--resume"
        config := parsed.value? "--config" }),
    ("history", historyGrammar, fun parsed =>
      .history ((parsed.operands.getD []).head?.getD "") (parsed.value? "--config")),
    ("check", checkGrammar, fun parsed => .check (parsed.operands.getD []) (parsed.has "--graph")),
    ("fmt", formatGrammar, fun parsed =>
      .format ((parsed.operands.getD []).head?.getD "") (parsed.has "--write")),
    ("init-config", configGrammar, fun parsed => .initConfig (parsed.operands.getD []).head?)]

/-- What is wrong with a command that there is not. -/
def unknownCommand (name : String) : String :=
  "argument command: invalid choice: " ++ Text.quoted name ++ " (choose from "
    ++ String.intercalate ", " (commands.map fun entry => Text.quoted entry.1) ++ ")"

/-- Refuses arguments that are left over. -/
def refuseExtras (extras : List String) (request : Request) : Except Stop Request :=
  if extras.isEmpty then .ok request
  else .error (.refused wholeGrammar ("unrecognized arguments: " ++ String.intercalate " " extras))

/-- The request that arguments make. -/
def readArguments (arguments : List String) : Except Stop Request := do
  let whole ← wholeGrammar.parse arguments
  match whole.operands with
  | none | some [] => refuseExtras whole.extras .help
  | some (name :: rest) =>
    match commands.lookup name with
    | none => .error (.refused wholeGrammar (unknownCommand name))
    | some (grammar, taskOf) =>
      let parsed ← grammar.parse rest
      refuseExtras (whole.extras ++ parsed.extras)
        (.task (taskOf parsed) (whole.has "--verbose") (whole.has "--quiet"))

end PromptChain.CommandLine
