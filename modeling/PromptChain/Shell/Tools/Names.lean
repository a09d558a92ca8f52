/-
**Parts of paths.**

The last step of a path, and the directory that it is in.
-/

import PromptChain.Shell.Tools.Inputs

namespace PromptChain.Shell.Tools

/-- A path without slashes at its end. -/
def withoutSlashes (path : Raw) : Raw := (path.reverse.dropWhile (· == '/')).reverse

/-- The last step of a path. -/
def lastStep (path : Raw) : Raw :=
  let trimmed := withoutSlashes path
  if trimmed.isEmpty then path.take 1 else (trimmed.reverse.takeWhile (· != '/')).reverse

/-- The directory that a path is in. -/
def directoryPath (path : Raw) : Raw :=
  let trimmed := withoutSlashes path
  let start := trimmed.take (trimmed.length - (lastStep trimmed).length)
  if trimmed.isEmpty then if path.isEmpty then ['.'] else ['/']
  else if start.isEmpty then ['.']
  else
    let directory := withoutSlashes start
    if directory.isEmpty then ['/'] else directory

/-- A name without an ending, unless it is nothing else. -/
def withoutEnding (ending name : Raw) : Raw :=
  if ending.isSuffixOf name && ending != name then name.take (name.length - ending.length) else name

/-- The options of `basename`. -/
def basenameGrammar : Grammar where
  tool := "basename"
  letters := "as:"
  strict := true

/-- The tool `basename`. -/
def runBasename (arguments : List Raw) : Run Unit :=
  basenameGrammar.run arguments fun given =>
    if given.operands.isEmpty then basenameGrammar.refuse "missing operand"
    else if given.has 'a' || given.has 's' then
      let ending := (given.value? 's').getD []
      say (unlinesOf (given.operands.map fun path => withoutEnding ending (lastStep path)))
    else
      match given.operands with
      | _ :: _ :: extra :: _ => basenameGrammar.refuse ("extra operand " ++ quotedInText extra)
      | path :: rest => say (withoutEnding (rest.head?.getD []) (lastStep path) ++ ['\n'])
      | [] => pure ()

/-- The options of `dirname`. -/
def dirnameGrammar : Grammar := { tool := "dirname", letters := "", strict := true }

/-- The tool `dirname`. -/
def runDirname (arguments : List Raw) : Run Unit :=
  dirnameGrammar.run arguments fun given =>
    if given.operands.isEmpty then dirnameGrammar.refuse "missing operand"
    else say (unlinesOf (given.operands.map directoryPath))

end PromptChain.Shell.Tools
