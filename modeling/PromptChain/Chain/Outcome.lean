/-
**How a chain ends.**

Every chain ends with an `Outcome`, and every outcome has an exit code. A fault that stops a chain
decides its outcome (`Fault.outcome`).
-/

import PromptChain.Fault

namespace PromptChain

/-- How a chain ends. -/
inductive Outcome where
  | success
  | noMatch
  | commandFailed
  | modelUnavailable
  | cyclicInvocation
  | unresolvedVariable
  | loadError
  | cancelled
  | internalError
deriving DecidableEq

namespace Outcome

/-- All outcomes. -/
def all : List Outcome :=
  [.success, .noMatch, .commandFailed, .modelUnavailable, .cyclicInvocation, .unresolvedVariable,
    .loadError, .cancelled, .internalError]

/-- The name of an outcome in records. -/
def name : Outcome → String
  | success => "success"
  | noMatch => "no_match"
  | commandFailed => "command_failed"
  | modelUnavailable => "model_unavailable"
  | cyclicInvocation => "cyclic_invocation"
  | unresolvedVariable => "unresolved_variable"
  | loadError => "load_error"
  | cancelled => "cancelled"
  | internalError => "internal_error"

/-- The exit code of an outcome. -/
def exitCode : Outcome → Nat
  | success => 0
  | noMatch => 1
  | commandFailed => 2
  | modelUnavailable => 3
  | cyclicInvocation => 4
  | unresolvedVariable => 5
  | loadError => 6
  | cancelled => 130
  | internalError => 70

end Outcome

/-- The outcome of a chain that a fault stops. -/
def Fault.outcome : Fault → Outcome
  | .source _ _ _ => .loadError
  | .unresolvedVariable _ _ => .unresolvedVariable
  | .commandFailed _ _ => .commandFailed
  | .modelUnavailable _ => .modelUnavailable
  | .cyclicInvocation _ _ => .cyclicInvocation
  | .invalidMetadata _ _ | .config _ | .general _ => .internalError

end PromptChain
