/-
**Reports account for every command.**

Three parts of a chain run commands, and each keeps other books: a direction warns of a command that fails, an
arm notes what its command printed and warns if it fails, and a command before a call leaves no note but stops
the chain when it fails. All the same the outputs and the warnings of a chain are what its commands were,
seen from outside (`Accounted`), wherever it ends: `TaskRun.accounted`, by induction over the rules.

`TaskRun.blames`: **a task that ends with a failed command blames the last command that was run.** A warning
of it is the last one, since nothing warns after it.

Main statement: `report_accounts_for_commands`.
-/

import PromptChain.Proofs.LastUnit

namespace PromptChain

/-! ### Books kept from outside -/

@[simp]
theorem finishedIn_append (early late : List Event) :
    finishedIn (early ++ late) = finishedIn early ++ finishedIn late := by
  simp [finishedIn]

@[simp]
theorem finishedIn_ran (request : CommandRequest) (result : CommandResult) (events : List Event) :
    finishedIn (.ran request (.finished result) :: events) = (request, result) :: finishedIn events := rfl

@[simp]
theorem finishedIn_said (line : LogLine) (events : List Event) :
    finishedIn (.said line :: events) = finishedIn events := rfl

@[simp]
theorem finishedIn_passed (running : Running) (events : List Event) :
    finishedIn (.passed running :: events) = finishedIn events := rfl

@[simp]
theorem finishedIn_nil : finishedIn [] = [] := rfl

/-- What the commands of arms printed. -/
def armOutputs (ran : List (CommandRequest × CommandResult)) : List String :=
  (ran.filter fun entry => entry.1.purpose == .arm).map fun entry => entry.2.stdout

/-- The wording for a command that has failed. -/
def failureText (entry : CommandRequest × CommandResult) : String :=
  (Fault.commandFailed entry.1.command (some entry.2)).text

/-- The failures of commands in directions and arms. -/
def failureTexts (ran : List (CommandRequest × CommandResult)) : List String :=
  (ran.filter fun entry => entry.1.purpose != .pipe && !entry.2.ok).map failureText

/-- The outputs and the warnings that a chain adds are those of the commands that it runs. -/
def Accounted (before : Running) (events : List Event) (after : Running) : Prop :=
  after.chain.outputs = before.chain.outputs ++ armOutputs (finishedIn events) ∧
    after.chain.warnings = before.chain.warnings ++ failureTexts (finishedIn events)

section Accounted

variable {before middle after : Running} {events early late : List Event}

theorem Accounted.append (first : Accounted before early middle) (second : Accounted middle late after) :
    Accounted before (early ++ late) after := by
  unfold Accounted armOutputs failureTexts at *
  rw [second.1, second.2, first.1, first.2]
  simp

/-- Without a command that finishes, nothing is added. -/
theorem Accounted.quiet (same : finishedIn events = []) (running : Running) :
    Accounted running events running := by
  simp [Accounted, same, armOutputs, failureTexts]

/-- Only commands that finish count. -/
theorem Accounted.congr {others : List Event} (accounted : Accounted before events after)
    (same : finishedIn others = finishedIn events) : Accounted before others after := by
  unfold Accounted
  rw [same]
  exact accounted

end Accounted

/-! ### Directions and commands -/

namespace Act

variable {α β : Type}

/-- All runs of an act are accounted for. -/
def Accounts (act : Act α) : Prop :=
  ∀ before events after result, (act before).Runs events (after, result) → Accounted before events after

theorem accounts_ofExcept (found : Except Fault α) : Accounts (ofExcept found) := by
  intro before events after result runs
  cases found <;> cases runs <;> exact .quiet rfl _

theorem accounts_running : Accounts running := by
  intro before events after result runs
  cases runs with
  | pass runs =>
    cases runs
    exact .quiet rfl _

theorem Accounts.bind {act : Act α} {next : α → Act β} (first : Accounts act)
    (second : ∀ value, Accounts (next value)) : Accounts (act >>= next) := by
  intro before events after result runs
  rcases runs_bind runs with ⟨early, late, middle, value, rfl, firstRuns, secondRuns⟩ | ⟨reason, stops, rfl⟩
  · exact (first before early middle _ firstRuns).append (second value middle late after _ secondRuns)
  · exact first before events after _ stops

/-- A command of a direction is accounted for together with the report of its failure. -/
theorem accounts_run_report {request : CommandRequest} (isDirection : request.purpose = .direction)
    {next : CommandResult → Act β} (rest : ∀ result, Accounts (next result)) :
    Accounts (run request >>= fun result => reportFailure warn request.command result >>= fun _ =>
      next result) := by
  intro before events after result runs
  cases runs with
  | run reply runs =>
    cases reply with
    | cancelled | crashed =>
      cases runs
      exact .quiet rfl _
    | finished given =>
      change ((reportFailure warn request.command given >>= fun _ => next given) before).Runs _ _ at runs
      unfold reportFailure at runs
      split at runs
      · rename_i fine
        obtain ⟨outputs, warnings⟩ := rest given _ _ _ _ runs
        exact ⟨by simpa [finishedIn_ran, armOutputs, isDirection] using outputs,
          by simpa [finishedIn_ran, failureTexts, fine] using warnings⟩
      · rename_i bad
        obtain ⟨later, rfl, more⟩ := runs_warn_bind runs
        obtain ⟨outputs, warnings⟩ := rest given _ _ _ _ more
        refine ⟨?_, ?_⟩
        · simpa [finishedIn_ran, armOutputs, isDirection, Chain.warn] using outputs
        · simpa [finishedIn_ran, failureTexts, failureText, isDirection, bad, Chain.warn] using warnings

theorem accounts_runSegments (name : Option String) (workplace : Workplace) (segments : List Segment) :
    Accounts (runSegments warn name workplace segments) := by
  induction segments with
  | nil => exact accounts_ofExcept (.ok [])
  | cons segment segments ih =>
    cases segment with
    | text plain => exact ih.bind fun parts => accounts_ofExcept (.ok _)
    | shell command =>
      refine accounts_running.bind fun running => (accounts_ofExcept _).bind fun text => ?_
      exact accounts_run_report rfl fun result => ih.bind fun parts => accounts_ofExcept (.ok _)

/-- **A direction accounts for its commands.** -/
theorem accounts_resolve (name : Option String) (workplace : Workplace) (template : Template) :
    Accounts (resolve warn name workplace template) :=
  (accounts_runSegments name workplace template.segments).bind fun _ =>
    accounts_running.bind fun _ => accounts_ofExcept _

end Act

variable {request : CommandRequest} {given : CommandResult}

theorem finishedIn_of_commandsIn {events : List Event}
    (single : commandsIn events = [(request, .finished given)]) :
    finishedIn events = [(request, given)] := by
  rw [finishedIn, single]
  rfl

/-! ### Tasks -/

section Tasks

variable {setting : Setting} {unit : PromptUnit} {before after : Running} {events : List Event}
  {result : Except Stop Outcome}

theorem Asks.finishedIn_eq {direction : String} {result : Except Stop String}
    (asks : Asks setting unit direction before events result) : finishedIn events = [] := by
  cases asks <;> rfl

theorem Hears.accounted {result : Except Stop Turn} (hears : Hears setting unit before events after result) :
    Accounted before events after := by
  cases hears with
  | unresolved resolving => exact Act.accounts_resolve _ _ _ _ _ _ _ resolving
  | unanswered resolving asking | answered resolving asking =>
    exact (Act.accounts_resolve _ _ _ _ _ _ _ resolving).append (.quiet asking.finishedIn_eq _)

theorem Resumes.accounted (resumes : Resumes before events after) : Accounted before events after := by
  cases resumes
  · exact .quiet rfl _
  · exact Accounted.quiet rfl before

theorem PromptUnit.commandsIn_framed (target : PromptUnit) (before ended : Running) (events : List Event) :
    commandsIn (target.framed before events ended) = commandsIn events := by
  unfold framed
  split
  · rfl
  · simp [commandsIn]

theorem Accounted.framed {target : PromptUnit} {ended : Running}
    (accounted : Accounted (target.outset before) events ended) :
    Accounted before (target.framed before events ended) (target.returned before ended) := by
  unfold Accounted finishedIn at *
  rw [target.commandsIn_framed, target.chain_returned]
  rw [target.chain_outset] at accounted
  exact accounted

/-- **Every task accounts for its commands**, however it ends. -/
theorem TaskRun.accounted {depth : Nat} {task : Task}
    (run : TaskRun setting depth task before events after result) :
    Accounted before events after := by
  induction run with
  | refused | cyclic | finished | unresolved => exact .quiet rfl _
  | @unheard _ unit before ended events _ _ _ _ hearing =>
    have heard : Accounted before events ended.left := hearing.accounted
    exact heard.congr (by simp [Running.entryEvents, Running.moveEvents])
  | @heard _ unit before middle ended early late turn _ _ _ _ hearing _ choosing =>
    have heard : Accounted before early middle := hearing.accounted
    have chosen : Accounted middle late ended.left := choosing
    exact (heard.append chosen).congr (by simp [Running.entryEvents, Running.moveEvents])
  | undecided | unmatched => exact Accounted.quiet rfl _
  | @matched _ unit before after found later _ _ _ _ acting =>
    have acted : Accounted before later after := acting
    exact acted.congr (by simp [Running.choiceEvents, Running.moveEvents])
  | halted _ running =>
    obtain ⟨rfl, ⟨_, none⟩ | ⟨_, _, ⟨⟩, _⟩⟩ := runs_runCommand running
    exact .quiet none _
  | printed fine running =>
    obtain ⟨rfl, _, single⟩ := runs_runCommand_ok running
    have finished := finishedIn_of_commandsIn single
    exact ⟨by simp [finished, armOutputs, Running.printed],
      by simp [finished, failureTexts, Running.printed, fine]⟩
  | failed bad running =>
    obtain ⟨rfl, _, single⟩ := runs_runCommand_ok running
    have finished := finishedIn_of_commandsIn single
    exact ⟨by simp [finished, armOutputs, Running.printed, Chain.warn],
      by simp [finished, failureTexts, failureText, Running.printed, Chain.warn, bad]⟩
  | pipeFailed _ running =>
    obtain ⟨rfl, _, single⟩ := runs_runCommand_ok running
    have finished := finishedIn_of_commandsIn single
    exact ⟨by simp [finished, armOutputs], by simp [finished, failureTexts]⟩
  | @piped _ _ _ _ _ given before middle after early later line _ _ running _ calling =>
    obtain ⟨rfl, _, single⟩ := runs_runCommand_ok running
    have finished := finishedIn_of_commandsIn single
    have called : Accounted middle later after := calling
    exact ⟨by simpa [finished, armOutputs] using called.1, by simpa [finished, failureTexts] using called.2⟩
  | called _ calling => exact calling
  | stopped _ _ _ _ entering => exact entering.framed
  | next _ _ _ _ resuming _ entering calling =>
    exact entering.framed.append (resuming.accounted.append calling)

/-! ### The last command -/

/-- The last command that was run has failed, and the end says so: without a stop it is not one before a call,
and a stop is its failure. -/
def BlamesLast (events : List Event) (result : Except Stop Outcome) : Prop :=
  ∃ request given, (commandsIn events).getLast? = some (request, .finished given) ∧ given.ok = false ∧
    ((result = .ok .commandFailed ∧ request.purpose ≠ .pipe) ∨
      result = .error (.fault (.commandFailed request.command (some given))))

theorem blamesLast_single {request : CommandRequest} {given : CommandResult}
    (single : commandsIn events = [(request, .finished given)]) (bad : given.ok = false)
    (ends : (result = .ok .commandFailed ∧ request.purpose ≠ .pipe) ∨
      result = .error (.fault (.commandFailed request.command (some given)))) : BlamesLast events result :=
  ⟨request, given, by rw [single]; rfl, bad, ends⟩

/-- Only commands from then on count. -/
theorem BlamesLast.behind {others : List Event} (blames : BlamesLast events result)
    (early : List Event) (same : commandsIn others = commandsIn early ++ commandsIn events) :
    BlamesLast others result := by
  obtain ⟨request, given, isLast, bad, ends⟩ := blames
  refine ⟨request, given, ?_, bad, ends⟩
  rw [same, List.getLast?_append, isLast]
  rfl

/-- An end with a failed command. -/
def FailsCommand (result : Except Stop Outcome) : Prop :=
  result = .ok .commandFailed ∨ ∃ command given, result = .error (.fault (.commandFailed command given))

theorem Mishap.not_failsCommand {reason : Stop} (mishap : Mishap events reason) :
    ¬ FailsCommand (.error reason) := by
  rintro (wrong | ⟨command, given, same⟩)
  · cases wrong
  · cases same
    cases mishap with
    | broken _ breaks => exact Event.breaks?_ne_fault breaks

/-- Who is to blame for a failed command: the last command, or one from before the calls. -/
def Task.Blames (events : List Event) (result : Except Stop Outcome) : Task → Prop
  | call _ outcome targets => (targets = [] ∧ outcome = .commandFailed ∧ events = []) ∨ BlamesLast events result
  | _ => BlamesLast events result

/-- **A task that ends with a failed command blames the last command.** -/
theorem TaskRun.blames {depth : Nat} {task : Task}
    (run : TaskRun setting depth task before events after result) (fails : FailsCommand result) :
    task.Blames events result := by
  induction run with
  | refused | unmatched | printed | unresolved | cyclic =>
    rcases fails with wrong | ⟨_, _, wrong⟩ <;> cases wrong
  | unheard _ _ _ hearing => exact absurd fails hearing.mishap.not_failsCommand
  | @heard _ unit before middle ended early late turn _ _ _ _ hearing _ choosing =>
    refine BlamesLast.behind (choosing fails) (before.entryEvents unit ++ early) ?_
    simp [commandsIn]
  | undecided _ chosen =>
    rcases fails with wrong | ⟨_, _, same⟩
    · cases wrong
    · cases same
      rcases PromptUnit.choice_error chosen with ⟨_, _, wrong⟩ | ⟨_, wrong⟩ <;> cases wrong
  | matched _ _ _ acting => exact BlamesLast.behind (acting fails) _ (commandsIn_append _ _)
  | halted _ running => exact absurd fails (aside_of_runCommand running).mishap.not_failsCommand
  | failed bad running =>
    obtain ⟨rfl, _, single⟩ := runs_runCommand_ok running
    refine BlamesLast.behind (blamesLast_single single bad (Or.inl ⟨rfl, by simp⟩)) [] ?_
    simp [commandsIn]
  | pipeFailed bad running =>
    obtain ⟨rfl, _, single⟩ := runs_runCommand_ok running
    exact blamesLast_single single bad (Or.inr rfl)
  | piped _ _ _ calling =>
    rcases calling fails with ⟨_, wrong, _⟩ | blames
    · cases wrong
    · exact BlamesLast.behind blames _ (commandsIn_append _ _)
  | called _ calling =>
    rcases calling fails with ⟨_, wrong, _⟩ | blames
    · cases wrong
    · exact blames
  | finished =>
    rcases fails with same | ⟨_, _, wrong⟩
    · cases same
      exact Or.inl ⟨rfl, rfl, rfl⟩
    · cases wrong
  | @stopped _ _ target _ _ _ before ended events line _ _ _ _ _ entering =>
    exact Or.inr (BlamesLast.behind (entering fails) [] (target.commandsIn_framed before ended events))
  | @next _ _ target _ given _ rest before ended middle after inner steps later line result _ _ _ _ resuming more
      entering calling =>
    have framed := target.commandsIn_framed before ended inner
    have quiet := resuming.commandsIn_eq
    rcases calling fails with ⟨rfl, rfl, rfl⟩ | blames
    · -- Nothing more is called, so the unit that has just ended is to blame.
      cases more
      refine Or.inr (BlamesLast.behind (entering fails) [] ?_)
      show commandsIn (target.framed before inner ended ++ (steps ++ [])) = _
      rw [List.append_nil, commandsIn_append, framed, quiet]
      exact List.append_nil _
    · refine Or.inr (BlamesLast.behind blames inner ?_)
      show commandsIn (target.framed before inner ended ++ (steps ++ later)) = _
      simp [framed, quiet]

end Tasks

/-- The wording for a failed command is never empty. -/
theorem Fault.text_commandFailed_ne (command : String) (result : Option CommandResult) :
    (Fault.commandFailed command result).text ≠ "" := by
  intro isEmpty
  have isEmpty : "Command failed" ++ (result.elim "" failureDetail) ++ ": " ++ command = "" := isEmpty
  simp only [String.append_eq_empty_iff] at isEmpty
  exact absurd isEmpty.1.1.1 (by decide)

theorem Stop.text_fault {fault : Fault} (someText : fault.text ≠ "") : (Stop.fault fault).text = fault.text := by
  rw [Stop.text, if_neg someText]

/-- Only a failed command has that outcome. -/
theorem failsCommand_of_outcome {reason : Stop} (isFailure : reason.outcome = .commandFailed) :
    FailsCommand (.error reason) := by
  cases reason with
  | fault fault =>
    cases fault with
    | commandFailed command given => exact Or.inr ⟨command, given, rfl⟩
    | _ => cases isFailure
  | _ => cases isFailure

/-- The last command, if it fails and is not one before a call, is warned of last. -/
theorem getLast?_failureTexts {events : List Event}
    (isLast : (commandsIn events).getLast? = some (request, .finished given))
    (bad : given.ok = false) (notPipe : request.purpose ≠ .pipe) :
    (failureTexts (finishedIn events)).getLast? = some (failureText (request, given)) := by
  obtain ⟨earlier, split⟩ := List.getLast?_eq_some_iff.mp isLast
  simp [finishedIn, split, failureTexts, bad, notPipe]

/-- **Reports account for every command.** In every chain, with every host and however it ends: the outputs of
the report are what the commands of arms printed, in order; its warnings are the failures of the commands in
directions and arms, in order; and when the outcome is a failed command, the error is the failure of the last
command that was run. -/
theorem report_accounts_for_commands (setting : Setting) (name user : String) (session : Option Session)
    {σ : Type} (host : Query.Host σ) (state : σ) :
    let query := invoke setting name user session
    let events := query.trace host state
    let report := (query.perform host state).1.1
    report.outputs = ((finishedIn events).filter fun entry => entry.1.purpose == .arm).map
        (fun entry => entry.2.stdout) ∧
      report.warnings = ((finishedIn events).filter fun entry =>
        entry.1.purpose != .pipe && !entry.2.ok).map failureText ∧
      (report.outcome = .commandFailed → ∃ request given,
        (commandsIn events).getLast? = some (request, .finished given) ∧ given.ok = false ∧
          report.error = some (failureText (request, given))) := by
  intro query events report
  obtain ⟨performed, traced⟩ := perform_invoke setting name user session host state
  let inner := (runNamed setting name (startSession user session)).trace host state
  let ended := ((runNamed setting name (startSession user session)).perform host state).1
  have isReport : report = endReport setting name ended _ := congrArg Prod.fst performed
  have sameCommands : commandsIn events = commandsIn inner := by
    rw [show events = _ from traced, commandsIn_append]
    exact List.append_nil _
  have sameFinished : finishedIn events = finishedIn inner := by rw [finishedIn, sameCommands, ← finishedIn]
  rw [sameCommands, sameFinished, isReport]
  rcases runs_runNamed ((runNamed setting name (startSession user session)).runs_trace host state) with
    ⟨missing, none, isEnd, isError⟩ | ⟨unit, found, run⟩
  · have isEnded : ended = (⟨{ root := name }, startSession user session⟩,
        .error (.fault (startFault setting.program name))) := Prod.ext isEnd isError
    rw [show inner = [] from none, isEnded]
    refine ⟨rfl, rfl, fun isFailure => ?_⟩
    have isLoadError : ∀ took, (endReport setting name ended took).outcome = .loadError := by
      intro took
      rw [isEnded]
      show (if (setting.program.lookup name).isSome then _ else _) = _
      rw [missing]
      rfl
    rw [← isEnded, isLoadError] at isFailure
    cases isFailure
  · obtain ⟨outputs, warnings⟩ := run.accounted
    refine ⟨outputs, warnings, fun isFailure => ?_⟩
    have fails : FailsCommand ended.2 := by
      have isOutcome : endOutcome setting name ended.2 = .commandFailed := isFailure
      cases isEnd : ended.2 with
      | ok outcome =>
        rw [isEnd] at isOutcome
        exact Or.inl (congrArg _ isOutcome)
      | error reason =>
        rw [isEnd, endOutcome, found] at isOutcome
        exact failsCommand_of_outcome isOutcome
    obtain ⟨request, given, isLast, bad, ends⟩ : BlamesLast inner ended.2 := run.blames fails
    refine ⟨request, given, isLast, bad, ?_⟩
    show endError (ended.1.moved .terminal).chain ended.2 = _
    rcases ends with ⟨isOk, notPipe⟩ | isStop
    · rw [isOk, ← getLast?_failureTexts isLast bad notPipe]
      exact congrArg List.getLast? warnings
    · rw [isStop]
      exact congrArg some (Stop.text_fault (Fault.text_commandFailed_ne _ _))

end PromptChain
