/-
**Shell commands and their results.**
-/

namespace PromptChain

/-- What a finished command left behind. -/
structure CommandResult where
  stdout : String := ""
  stderr : String := ""
  exitCode : Int := 0
  timedOut : Bool := false

def CommandResult.ok (result : CommandResult) : Bool := result.exitCode == 0 && !result.timedOut

end PromptChain
