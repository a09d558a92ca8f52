/-
**Finding commands.**

The name of a command leads to a tool, by itself if it is a path, or in one of the directories for commands
(`findCommand`). Other files cannot be run.
-/

import PromptChain.Shell.Utilities

namespace PromptChain.Shell

/-- Is there a tool of this name? Some are run by the shell itself. -/
def isUtility (name : String) : Bool :=
  (utility? name []).isSome || ["[", "dash", "printf", "pwd", "sh", "test"].contains name

/-- What a name leads to. -/
inductive Found where
  | tool (name : String) (path : Raw)
  /-- A file that cannot be run. -/
  | refused
  | missing

/-- Is it a directory of tools? -/
def holdsTools (directory : Raw) : Bool := directory == "/bin" || directory == "/usr/bin"

/-- What a path leads to. -/
def findPath (state : State) (path : Raw) : Found :=
  let name := (path.reverse.takeWhile (· != '/')).reverse
  let directory := path.take (path.length - name.length - 1)
  if holdsTools directory && isUtility (textOfRaw name) then .tool (textOfRaw name) path
  else if state.namesFile path || state.namesDirectory path then .refused
  else .missing

/-- What the name of a command leads to: a path itself, or what the directories for commands hold. -/
def findCommand (state : State) (name : Raw) : Found :=
  if name.contains '/' then findPath state name
  else if name.isEmpty then .missing
  else
    let directories := match state.value? "PATH" with
      | some path => Text.splitOnChar ':' path
      | none => []
    let found := directories.findSome? fun directory =>
      match findPath state (if directory.isEmpty then name else directory ++ '/' :: name) with
      | .tool name path => some (.tool name path)
      | _ => none
    found.getD .missing

end PromptChain.Shell
