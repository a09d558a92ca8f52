/-
**Making a request again.**

A request that fails is made again, a number of times, with a pause between two attempts that doubles
each time (`attemptAll`). A pause that is too long for a double is not made, and ends the attempts.
-/

namespace PromptChain

structure AttemptFailure where
  problem : String
  /-- Whether the failure is one of the model itself. -/
  unavailable : Bool := false

inductive RetryStep where
  | attempt
  | pause (halfSeconds : Nat)
deriving DecidableEq

structure Attempts (α : Type) where
  /-- The attempts that were made and the pauses between them. -/
  steps : List RetryStep
  /-- The content of the first attempt that did not fail, or the last failure. -/
  result : Except AttemptFailure α

/-- The first power of two that is too large for a double. -/
def pauseLimit : Nat := 1024

/-- The failure of a pause that is too long. -/
def pauseFailure : AttemptFailure := { problem := "int too large to convert to float" }

/-- Makes attempts from an index on, with a number of retries left. -/
def attemptFrom {α : Type} (attempt : Nat → Except AttemptFailure α) (index : Nat) :
    Nat → Attempts α
  | 0 => ⟨[.attempt], attempt index⟩
  | retries + 1 =>
    match attempt index with
    | .ok content => ⟨[.attempt], .ok content⟩
    | .error _ =>
      if index < pauseLimit then
        let rest := attemptFrom attempt (index + 1) retries
        ⟨.attempt :: .pause (Nat.pow 2 index) :: rest.steps, rest.result⟩
      else ⟨[.attempt], .error pauseFailure⟩

/-- Makes attempts until one does not fail, at most one more than the number of retries. -/
def attemptAll {α : Type} (attempt : Nat → Except AttemptFailure α) (retries : Nat) : Attempts α :=
  attemptFrom attempt 0 retries

end PromptChain
