/-
**The states of a chain.**

A chain is idle, waits for the model, matches an answer, acts, and ends; `ChainState.mayGo` says which
steps it may take. A `Chain` keeps the states it went through, the units in flight, the units entered,
its warnings and its outputs.
-/

import PromptChain.Chain.Outcome
import PromptChain.Log
import PromptChain.PromptUnit

namespace PromptChain

/-- What a chain is doing. -/
inductive ChainState where
  | idle
  | awaitingModel
  | matching
  | acting
  | terminal
deriving DecidableEq

namespace ChainState

/-- All states. -/
def all : List ChainState := [.idle, .awaitingModel, .matching, .acting, .terminal]

/-- The name of a state in reports. -/
def name : ChainState → String
  | idle => "Idle"
  | awaitingModel => "AwaitingModel"
  | matching => "Matching"
  | acting => "Acting"
  | terminal => "Terminal"

/-- The state of a name. -/
def ofName? (name : String) : Option ChainState := all.find? fun state => state.name == name

/-- Which steps a chain may take. -/
def mayGo : ChainState → ChainState → Bool
  | idle, awaitingModel => true
  | awaitingModel, matching => true
  | matching, acting => true
  | acting, awaitingModel => true
  | idle, terminal | awaitingModel, terminal | matching, terminal | acting, terminal => true
  | _, _ => false

end ChainState

/-- A chain on its way. -/
structure Chain where
  /-- The name of the unit that it starts with. -/
  root : String
  state : ChainState := .idle
  /-- The states that it went through. -/
  states : List ChainState := [.idle]
  /-- The units in flight, the last one on top. -/
  stack : List String := []
  /-- The units that were entered. -/
  trail : List String := []
  warnings : List String := []
  outputs : List String := []
deriving DecidableEq

namespace Chain

/-- What is wrong with a step that may not be taken. -/
def illegalMessage (state next : ChainState) : String :=
  "Illegal chain transition " ++ state.name ++ " -> " ++ next.name

/-- What is said about a step. -/
def stepLine (chain : Chain) (next : ChainState) : LogLine :=
  ⟨.debug, "[chain] " ++ chain.root ++ ": " ++ chain.state.name ++ " -> " ++ next.name⟩

/-- What a step does: nothing if the chain is there already, else one step if it may be taken. -/
inductive Step where
  | stays
  | goes (chain : Chain) (line : LogLine)
  | illegal (fault : Fault)

/-- What a step to a state does. -/
def step (chain : Chain) (next : ChainState) : Step :=
  if next = chain.state then .stays
  else if chain.state.mayGo next then
    .goes { chain with state := next, states := chain.states ++ [next] } (chain.stepLine next)
  else .illegal (.general (illegalMessage chain.state next))

/-- What is said about a warning. -/
def warningLine (fault : Fault) : LogLine := ⟨.warning, "[warn] " ++ fault.text⟩

/-- Keeps a warning. -/
def warn (chain : Chain) (fault : Fault) : Chain :=
  { chain with warnings := chain.warnings ++ [fault.text] }

/-- Is the unit of a name in flight? -/
def inFlight (chain : Chain) (name : String) : Bool :=
  chain.stack.any fun other => nameKey other == nameKey name

/-- Puts a unit on top. -/
def push (chain : Chain) (name : String) : Chain := { chain with stack := chain.stack ++ [name] }

/-- Takes the unit on top away. -/
def pop (chain : Chain) : Chain := { chain with stack := chain.stack.dropLast }

end Chain

end PromptChain
