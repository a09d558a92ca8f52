/-
**Log lines.**
-/

namespace PromptChain

/-- How much a log line matters, from least to most. -/
inductive Level where
  | debug
  | info
  | warning
  | error
deriving DecidableEq

def Level.name : Level → String
  | debug => "DEBUG"
  | info => "INFO"
  | warning => "WARNING"
  | error => "ERROR"

def Level.rank : Level → Nat
  | debug => 0
  | info => 1
  | warning => 2
  | error => 3

structure LogLine where
  level : Level
  text : String
deriving DecidableEq

end PromptChain
