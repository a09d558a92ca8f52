/-
**Programs of requests.**

What a chain does is a `Query`: a finite program that says log lines, reads the clock, asks the model, has
commands run, and goes on with the replies. It is performed by a `Host`, which answers requests out of a
state of its own (`Query.perform`). A chain stops early by a `Stop`; an `Act` is a program that may do so
and that reads and writes the state of the chain.

Every state that a chain reads or comes to stands in its query (`Query.pass`), so that what holds of a
chain at every moment can be said. Hosts do not see these states.
-/

import PromptChain.Chain.State
import PromptChain.Session

namespace PromptChain

/-! ### Requests and replies -/

/-- What is sent to the model. -/
structure ModelRequest where
  /-- The unit that asks. -/
  unit : String
  direction : String
  history : List Turn
deriving DecidableEq

/-- An error that is none of the program's own: what it says, and the name of its kind. -/
structure Crash where
  message : String
  kind : String := "RuntimeError"
deriving DecidableEq

/-- What comes back from the model. -/
inductive ModelReply where
  | answer (text : String)
  /-- The model gives no answer, and says why. -/
  | unavailable (problem : String)
  /-- No answer came in time. -/
  | late
  /-- Asking went wrong in another way. -/
  | crashed (crash : Crash)

/-- What a command is run for. -/
inductive Purpose where
  /-- Its output goes into a direction. -/
  | direction
  /-- It is the action of an arm. -/
  | arm
  /-- Its output becomes the answer for units that are called. -/
  | pipe
deriving DecidableEq

/-- The directory in which a command runs. -/
inductive Workplace where
  /-- Where the program itself runs. -/
  | default
  | named (path : String)
  /-- The directory of a source file, if it is there. -/
  | ofSource (path : String)
deriving DecidableEq

/-- A command to run, with the variables it sees and the directory it runs in. -/
structure CommandRequest where
  purpose : Purpose
  command : String
  env : Bindings
  workplace : Workplace
deriving DecidableEq

/-- What comes of a command. -/
inductive CommandReply where
  | finished (result : CommandResult)
  | cancelled
  /-- It could not be run. -/
  | crashed (crash : Crash)

/-! ### Queries -/

/-- A chain under way, and its session. -/
structure Running where
  chain : Chain
  session : Session
deriving DecidableEq

/-- A program of requests with a result. -/
inductive Query (α : Type) where
  | done (value : α)
  /-- The chain reads its state, or has come to a new one. -/
  | pass (running : Running) (next : Query α)
  | say (line : LogLine) (next : Query α)
  /-- The clock is read, in seconds. -/
  | time (next : Float → Query α)
  /-- No reply comes when the chain is cancelled while it waits for the model. -/
  | ask (request : ModelRequest) (next : Option ModelReply → Query α)
  | run (request : CommandRequest) (next : CommandReply → Query α)

namespace Query

variable {α β : Type}

/-- Goes on with the result of a program. -/
def bind : Query α → (α → Query β) → Query β
  | done value, next => next value
  | pass running rest, next => pass running (bind rest next)
  | say line rest, next => say line (bind rest next)
  | time rest, next => time fun now => bind (rest now) next
  | ask request reply, next => ask request fun answer => bind (reply answer) next
  | run request reply, next => run request fun answer => bind (reply answer) next

/-- Who answers requests, out of a state. -/
structure Host (σ : Type) where
  say : LogLine → σ → σ
  clock : σ → Float
  /-- The reply of the model; none if the chain is cancelled before it comes. -/
  ask : ModelRequest → σ → Option ModelReply × σ
  run : CommandRequest → σ → CommandReply × σ

/-- The result of a program with a host, and the state in which the host is left. -/
def perform {σ : Type} (host : Host σ) : Query α → σ → α × σ
  | done value, state => (value, state)
  | pass _ rest, state => perform host rest state
  | say line rest, state => perform host rest (host.say line state)
  | time rest, state => perform host (rest (host.clock state)) state
  | ask request reply, state =>
    perform host (reply (host.ask request state).1) (host.ask request state).2
  | run request reply, state =>
    perform host (reply (host.run request state).1) (host.run request state).2

end Query

/-! ### Acts -/

/-- Why a chain stops early. -/
inductive Stop where
  | fault (fault : Fault)
  | cancelled
  | crashed (crash : Crash)

/-- The outcome of a chain that stops. -/
def Stop.outcome : Stop → Outcome
  | fault found => found.outcome
  | cancelled => .cancelled
  | crashed _ => .internalError

/-- What is said of a stop: its wording, or the name of its kind if that is empty. -/
def Stop.text : Stop → String
  | fault found => if found.text = "" then found.kind else found.text
  | cancelled => "CancelledError"
  | crashed crash => if crash.message = "" then crash.kind else crash.message

/-- A program that reads and writes the state of a chain and may stop early; the state stays either
way. -/
def Act (α : Type) := Running → Query (Running × Except Stop α)

namespace Act

variable {α β : Type}

/-- Gives a value and does nothing. -/
def pure (value : α) : Act α := fun running => .done (running, .ok value)

/-- Stops for a reason. -/
def stop (reason : Stop) : Act α := fun running => .done (running, .error reason)

/-- Goes on with a value, unless there was a stop. -/
def bind (act : Act α) (next : α → Act β) : Act β := fun running =>
  (act running).bind fun (running, result) =>
    match result with
    | .ok value => next value running
    | .error reason => .done (running, .error reason)

instance : Monad Act where
  pure := Act.pure
  bind := Act.bind

/-- Ends in a state, with a result. -/
def arrive (running : Running) (result : Except Stop α) : Query (Running × Except Stop α) :=
  .pass running (.done (running, result))

/-- Reads the state. -/
def running : Act Running := fun running => arrive running (.ok running)

/-- Changes the chain. -/
def modifyChain (change : Chain → Chain) : Act Unit := fun running =>
  arrive { running with chain := change running.chain } (.ok ())

/-- Changes the session. -/
def modifySession (change : Session → Session) : Act Unit := fun running =>
  arrive { running with session := change running.session } (.ok ())

/-- Writes a line to the log. -/
def say (line : LogLine) : Act Unit := fun running => .say line (.done (running, .ok ()))

/-- Logs a text as information. -/
def info (text : String) : Act Unit := say ⟨.info, text⟩

/-- Asks the model; a chain that is cancelled before the reply comes stops. -/
def ask (request : ModelRequest) : Act ModelReply := fun running =>
  .ask request fun
    | some reply => .done (running, .ok reply)
    | none => .done (running, .error .cancelled)

/-- Has a command run; a command that does not finish stops the chain. -/
def run (request : CommandRequest) : Act CommandResult := fun running =>
  .run request fun
    | .finished result => .done (running, .ok result)
    | .cancelled => .done (running, .error .cancelled)
    | .crashed crash => .done (running, .error (.crashed crash))

/-- Gives a value, or stops for a fault. -/
def ofExcept : Except Fault α → Act α
  | .ok value => pure value
  | .error fault => stop (.fault fault)

/-- Takes a step of the chain to a state; a step that is not legal stops it. -/
def goTo (next : ChainState) : Act Unit := fun running =>
  match running.chain.step next with
  | .stays => .done (running, .ok ())
  | .goes chain line => .say line (arrive { running with chain } (.ok ()))
  | .illegal fault => .done (running, .error (.fault fault))

/-- Warns of a fault, in the log and in the chain. -/
def warn (fault : Fault) : Act Unit := fun running =>
  .say (Chain.warningLine fault) (arrive { running with chain := running.chain.warn fault } (.ok ()))

/-- Does something with a unit in flight, which it is no more at the end, however it ends. -/
def inFlight (name : String) (act : Act α) : Act α := fun before =>
  let entered := { before with chain := before.chain.push name }
  .pass entered ((act entered).bind fun (running, result) =>
    arrive { running with chain := running.chain.pop } result)

/-- Does something in a conversation of its own; the turns of before are those after it. -/
def isolated (act : Act α) : Act α := fun before =>
  let entered := { before with session := { before.session with turns := [] } }
  .pass entered ((act entered).bind fun (running, result) =>
    arrive { running with session := { running.session with turns := before.session.turns } } result)

end Act

end PromptChain
