/-
**The tools that commands call.**

Each tool is a program of the shell that gets its arguments; `utility?` finds it by name.
-/

import PromptChain.Shell.Tools.Counts
import PromptChain.Shell.Tools.Cut
import PromptChain.Shell.Tools.Ends
import PromptChain.Shell.Tools.Exchange
import PromptChain.Shell.Tools.Expr
import PromptChain.Shell.Tools.Grep
import PromptChain.Shell.Tools.JsonFormat
import PromptChain.Shell.Tools.Manage
import PromptChain.Shell.Tools.Sequence
import PromptChain.Shell.Tools.Show
import PromptChain.Shell.Tools.Sort
import PromptChain.Shell.Tools.Surroundings

namespace PromptChain.Shell

open Tools

/-- What a tool of a name does with its arguments. -/
def utility? (name : String) (arguments : List Raw) : Option (Run Unit) :=
  match name with
  | "basename" => some (runBasename arguments)
  | "cat" => some (runCat arguments)
  | "cp" => some (runCopy "cp" false arguments)
  | "cut" => some (runCut arguments)
  | "dirname" => some (runDirname arguments)
  | "echo" => some (runEcho arguments)
  | "egrep" => some (runGrep ("-E" :: arguments))
  | "expr" => some (Expr.run arguments)
  | "false" => some (runStatus 1 arguments)
  | "fgrep" => some (runGrep ("-F" :: arguments))
  | "grep" => some (runGrep arguments)
  | "head" => some (runHead arguments)
  | "ls" => some (runLs arguments)
  | "mkdir" => some (runMkdir arguments)
  | "mv" => some (runCopy "mv" true arguments)
  | "printenv" => some (runPrintenv arguments)
  | "python3" => runInterpreter? arguments
  | "rev" => some (runRev arguments)
  | "rm" => some (runRm arguments)
  | "seq" => some (Sequence.run arguments)
  | "sleep" => some (runSleep arguments)
  | "sort" => some (runSort arguments)
  | "tac" => some (runTac arguments)
  | "tail" => some (runTail arguments)
  | "tee" => some (runTee arguments)
  | "touch" => some (runTouch arguments)
  | "tr" => some (Exchange.run arguments)
  | "true" => some (runStatus 0 arguments)
  | "uniq" => some (runUniq arguments)
  | "wc" => some (runWc arguments)
  | "yes" => some (runYes arguments)
  | _ => none

end PromptChain.Shell
