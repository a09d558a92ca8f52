/-
**Running a chain.**

`enterUnit` drives one unit: it resolves the direction, asks the model, matches the answer and carries out
the action of the arm that matched, which may call further units. A unit in flight is not entered again,
so the nesting of calls is never deeper than the number of loaded units, which is what `runUnit` is given
as fuel. `invoke` runs a chain from a name to its report.
-/

import PromptChain.Chain.Direction
import PromptChain.Chain.Report
import PromptChain.Decimal.Format
import PromptChain.Matching
import PromptChain.Program

namespace PromptChain

/-- What stays the same during a chain. -/
structure Setting where
  program : Program
  /-- Whether there is a model to ask. -/
  hasModel : Bool
  /-- How long to wait for the model, in seconds. -/
  modelTimeout : Float

/-- The directory in which the commands of a unit run. -/
def PromptUnit.workplace (unit : PromptUnit) : Workplace :=
  match unit.source.filter (· != "") with
  | some source => .ofSource source
  | none => .default

/-! ### Asking -/

/-- What is wrong if there is no model. -/
def noModelMessage : String :=
  "No model provider configured (set an API key or PROMPTLANG_AI_PROVIDER)"

/-- What is wrong if the model takes too long. -/
def lateMessage (seconds : Float) : String :=
  "Model did not answer within " ++ Decimal.display seconds ++ "s"

/-- The answer in a reply, or the stop that it makes. -/
def takeReply (setting : Setting) (unit : PromptUnit) : ModelReply → Act String
  | .answer text => do
    Act.info ("[model] " ++ unit.name ++ " -> " ++ Text.quoted text)
    pure text
  | .unavailable problem => Act.stop (.fault (.modelUnavailable problem))
  | .late => Act.stop (.fault (.modelUnavailable (lateMessage setting.modelTimeout)))
  | .crashed crash => Act.stop (.crashed crash)

/-- Asks the model with the direction of a unit. -/
def askModel (setting : Setting) (unit : PromptUnit) (direction : String) : Act String := do
  if !setting.hasModel then Act.stop (.fault (.modelUnavailable noModelMessage))
  else
    let history := (← Act.running).session.history unit.history
    Act.info ("[model] " ++ unit.name ++ " <- " ++ Text.quoted direction ++ " ("
      ++ toString history.length ++ " prior turn(s))")
    let reply ← Act.ask ⟨unit.name, direction, history⟩
    takeReply setting unit reply

/-! ### Acting -/

/-- Runs a command of a unit, with variables inserted; gives the command and its result. -/
def runCommand (purpose : Purpose) (unit : PromptUnit) (command : String) :
    Act (String × CommandResult) := do
  let bindings := (← Act.running).session.bindings
  let command ← Act.ofExcept (interpolate bindings (some unit.name) command)
  Act.info ("[shell] " ++ unit.name ++ ": " ++ command)
  let result ← Act.run ⟨purpose, command, exportEnv bindings, unit.workplace⟩
  pure (command, result)

/-- What is wrong with a call of a unit that is not loaded. -/
def notLoadedMessage (caller target : String) : String :=
  "Unit '" ++ caller ++ "' calls '" ++ target ++ "', which is not loaded"

/-- Enters a unit that is called: in the conversation of its caller, or in one of its own. -/
def enterTarget (enter : PromptUnit → Act Outcome) (target : PromptUnit) : Act Outcome :=
  if target.history then enter target else Act.isolated (enter target)

/-- Calls units one after the other; the last one decides the outcome. -/
def callTargets (program : Program) (enter : PromptUnit → Act Outcome) (caller : PromptUnit)
    (outcome : Outcome) : List String → Act Outcome
  | [] => pure outcome
  | name :: rest =>
    match program.lookup name with
    | none =>
      Act.stop (.fault (.source .unresolvedReference (notLoadedMessage caller.name name)
        { source := caller.source }))
    | some target => do
      let chain := (← Act.running).chain
      if chain.inFlight target.name then
        Act.stop (.fault (.cyclicInvocation chain.stack target.name))
      else
        Act.info ("[call] " ++ caller.name ++ " -> " ++ target.name)
        let outcome ← enterTarget enter target
        Act.goTo .acting
        callTargets program enter caller outcome rest

/-- Carries out the action of an arm. -/
def carryOut (program : Program) (enter : PromptUnit → Act Outcome) (unit : PromptUnit) :
    Action → Act Outcome
  | .shell command => do
    let (command, result) ← runCommand .arm unit command
    Act.modifyChain fun chain => { chain with outputs := chain.outputs ++ [result.stdout] }
    if result.ok then pure .success
    else
      Act.warn (.commandFailed command (some result))
      pure .commandFailed
  | .pipe command targets => do
    let (command, result) ← runCommand .pipe unit command
    if !result.ok then Act.stop (.fault (.commandFailed command (some result)))
    else
      let answer := trimOutput result.stdout
      Act.modifySession fun session => session.setVariable "AI" answer
      Act.info ("[pipe] " ++ unit.name ++ ": $AI <- " ++ Text.quoted answer)
      callTargets program enter unit .success targets
  | .call targets => callTargets program enter unit .success targets

/-! ### One unit -/

/-- The error of a match with a torn group. -/
def tornCrash (torn : Regex.TornGroup) : Crash := { message := torn.message, kind := "SystemError" }

/-- What is said of the arm that matched. -/
def matchedMessage (unit : PromptUnit) (found : Match) : String :=
  "[match] " ++ unit.name ++ ": arm " ++ toString (found.index + 1) ++ " (" ++ found.arm.pattern.kind
    ++ ") matched"

/-- Matches the variable of a unit and acts on the first arm that fits. -/
def matchAndAct (program : Program) (enter : PromptUnit → Act Outcome) (unit : PromptUnit) :
    Act Outcome := do
  Act.goTo .matching
  match (← Act.running).session.lookup unit.subject with
  | none => Act.stop (.fault (.unresolvedVariable unit.subject (some unit.name)))
  | some subject =>
    match firstMatch subject unit.arms with
    | .error torn => Act.stop (.crashed (tornCrash torn))
    | .ok none =>
      Act.info ("[match] " ++ unit.name ++ ": no arm matched " ++ Text.quoted subject)
      pure .noMatch
    | .ok (some found) =>
      Act.info (matchedMessage unit found)
      Act.modifySession fun session => session.bind found.bindings
      Act.goTo .acting
      carryOut program enter unit found.arm.action

/-- The direction of a unit; none without metadata. -/
def PromptUnit.direction (unit : PromptUnit) : Template :=
  unit.metadata.elim ⟨[]⟩ Metadata.direction

/-- Drives a unit from its direction to the end of its action. -/
def driveUnit (setting : Setting) (enter : PromptUnit → Act Outcome) (unit : PromptUnit) :
    Act Outcome := do
  Act.modifyChain fun chain => { chain with trail := chain.trail ++ [unit.name] }
  Act.goTo .awaitingModel
  let direction ← resolve Act.warn (some unit.name) unit.workplace unit.direction
  let answer ← askModel setting unit direction
  Act.modifySession fun session => session.appendTurn ⟨direction, answer, some unit.name⟩
  matchAndAct setting.program enter unit

/-- Enters a unit, unless it is in flight. -/
def enterUnit (setting : Setting) (enter : PromptUnit → Act Outcome) (unit : PromptUnit) :
    Act Outcome := do
  let chain := (← Act.running).chain
  if chain.inFlight unit.name then Act.stop (.fault (.cyclicInvocation chain.stack unit.name))
  else Act.inFlight unit.name (driveUnit setting enter unit)

/-- Runs a unit, with fuel for the nesting of calls. -/
def runUnit (setting : Setting) : Nat → PromptUnit → Act Outcome
  | 0, unit => do
    let chain := (← Act.running).chain
    Act.stop (.fault (.cyclicInvocation chain.stack unit.name))
  | fuel + 1, unit => enterUnit setting (runUnit setting fuel) unit

/-! ### The whole chain -/

/-- What is wrong with a name that no unit has. -/
def notDefinedMessage (name : String) : String := "Unit '" ++ name ++ "' is not defined"

/-- Why a chain cannot start at a name that is not loaded. -/
def startFault (program : Program) (name : String) : Fault :=
  (Assoc.get? program.blocked (nameKey name)).getD
    (.source .malformed (notDefinedMessage name) {})

/-- The session in which a chain starts: a new one, or an earlier one with the user's text. -/
def startSession (user : String) : Option Session → Session
  | none => Session.start user
  | some session => if user = "" then session else session.setVariable "USER" user

/-- Runs the unit of a name; gives the state in which it ends and its end. -/
def runNamed (setting : Setting) (name : String) (session : Session) :
    Query (Running × Except Stop Outcome) :=
  match setting.program.lookup name with
  | none => .done (⟨{ root := name }, session⟩, .error (.fault (startFault setting.program name)))
  | some unit =>
    runUnit setting setting.program.units.length unit ⟨{ root := unit.name }, session⟩

/-- The outcome of a chain: a chain that never starts has not loaded. -/
def endOutcome (setting : Setting) (name : String) : Except Stop Outcome → Outcome
  | .ok outcome => outcome
  | .error reason => if (setting.program.lookup name).isSome then reason.outcome else .loadError

/-- The error that a report tells. -/
def endError (chain : Chain) : Except Stop Outcome → Option String
  | .error reason => some reason.text
  | .ok .commandFailed => chain.warnings.getLast?
  | .ok _ => none

/-- The report of a chain that ends in a session, with an outcome, after so many milliseconds. -/
def reportOf (chain : Chain) (session : Session) (outcome : Outcome) (error : Option String)
    (duration : Float) : Report where
  unit := chain.root
  outcome := outcome
  trail := chain.trail
  answer := (session.lookup "AI").filter (· != "")
  bindings := session.bindings
  warnings := chain.warnings
  outputs := chain.outputs
  error := error
  states := chain.states
  duration := duration

/-- What is said when a chain has ended. -/
def endLine (report : Report) : LogLine :=
  let level := match report.outcome with
    | .success | .noMatch => Level.info
    | _ => Level.error
  ⟨level, "[chain] " ++ report.unit ++ " ended with " ++ report.outcome.name ++ report.detail⟩

/-- The milliseconds between two moments in seconds. -/
def milliseconds (started ended : Float) : Float := (ended - started) * 1000.0

/-- The end of a chain: its last state, and its report. -/
def conclude (setting : Setting) (name : String) (started : Float) (running : Running)
    (result : Except Stop Outcome) : Query (Report × Session) :=
  let finish (chain : Chain) : Query (Report × Session) :=
    .time fun ended =>
      let report := reportOf chain running.session (endOutcome setting name result)
        (endError chain result) (milliseconds started ended)
      .say (endLine report) (.done (report, running.session))
  match running.chain.step .terminal with
  | .goes chain line => .say line (finish chain)
  | _ => finish running.chain

/-- Runs a chain from a name to its report. -/
def invoke (setting : Setting) (name user : String) (session : Option Session) :
    Query (Report × Session) :=
  .time fun started =>
    (runNamed setting name (startSession user session)).bind fun (running, result) =>
      conclude setting name started running result

end PromptChain
