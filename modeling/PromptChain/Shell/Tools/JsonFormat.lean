/-
**Formatting JSON.**

JSON from a file or from the input is printed with four blanks a level.
-/

import PromptChain.Json.Reader
import PromptChain.Json.Writer
import PromptChain.Shell.Tools.Inputs

namespace PromptChain.Shell.Tools

/-- How the formatter is called. -/
def formatterUsage : String :=
  let blanks := "                           "
  "usage: python -m json.tool [-h] [--sort-keys] [--no-ensure-ascii]\n" ++ blanks ++ "[--json-lines]\n"
    ++ blanks ++ "[--indent INDENT | --tab | --no-indent | --compact]\n" ++ blanks ++ "[infile] [outfile]\n"

/-- Prints JSON with four blanks a level. -/
def formatJson (text : Raw) : Run Unit :=
  let content := (textOfRaw text).toList
  match Json.read content with
  | .ok value => say (Json.pretty { asciiOnly := true, indent := 4 } value ++ "\n")
  | .error fault => do
    complain (fault.message content ++ "\n")
    setStatus 1

/-- Formats a file, or the input. -/
def runJsonTool (arguments : List Raw) : Run Unit := do
  match arguments with
  | [] => formatJson (← takeInput)
  | path :: _ =>
    match (← get).readFile path with
    | .ok text => formatJson text
    | .error issue => do
      let name := textOfRaw path
      complain (formatterUsage ++ "python -m json.tool: error: argument infile: can't open '"
        ++ name ++ "': " ++ issue.message name ++ "\n")
      setStatus 2

/-- Runs the interpreter with which JSON is formatted, if that is all that it is asked for. -/
def runInterpreter? (arguments : List Raw) : Option (Run Unit) :=
  match arguments with
  | flag :: tool :: rest =>
    if flag == "-m" && tool == "json.tool" then some (runJsonTool rest) else none
  | _ => none

end PromptChain.Shell.Tools
