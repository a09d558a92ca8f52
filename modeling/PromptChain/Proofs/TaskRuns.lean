/-
**What the runs of a chain are made of.**

A chain works through tasks: it enters a unit, chooses one of its arms, carries out the action of the arm
and calls the units that the action names (`Task`). `TaskRun` has one rule for each way in which a task goes
on or ends, with all that happens on it.

* `taskRun_of_runs`: **every run of a unit is made by these rules.** The steps from state to state that a
  chain tries are all legal, so no rule is about one that is not.
* `Aside`: what commands and directions do on the side. They leave the session and the course of the chain
  alone, and stop for a variable that is not bound or because a command breaks off.

What is true of every chain is shown by induction over the rules.
-/

import PromptChain.Proofs.CallStack

namespace PromptChain

variable {before after : Running} {events : List Event}

/-! ### States on the way -/

namespace Running

/-- One state further. -/
def moved (running : Running) (next : ChainState) : Running :=
  { running with chain := { running.chain with
    state := next, states := running.chain.states ++ [next] } }

/-- With a unit in flight. -/
def pushed (running : Running) (name : String) : Running :=
  { running with chain := running.chain.push name }

/-- With a unit on the trail. -/
def noted (running : Running) (name : String) : Running :=
  { running with chain := { running.chain with trail := running.chain.trail ++ [name] } }

/-- With a unit entered, which waits for the model. -/
def entered (running : Running) (unit : PromptUnit) : Running :=
  ((running.pushed unit.name).noted unit.name).moved .awaitingModel

/-- Without the unit on top. -/
def left (running : Running) : Running := { running with chain := running.chain.pop }

/-- With an answer in the conversation. -/
def told (running : Running) (turn : Turn) : Running :=
  { running with session := running.session.appendTurn turn }

/-- With the captures of a match. -/
def bound (running : Running) (found : Match) : Running :=
  { running with session := running.session.bind found.bindings }

/-- With the output of a command. -/
def printed (running : Running) (result : CommandResult) : Running :=
  { running with chain := { running.chain with outputs := running.chain.outputs ++ [result.stdout] } }

/-- With the output of a command for the answer. -/
def piped (running : Running) (answer : String) : Running :=
  { running with session := running.session.setVariable "AI" answer }

/-- What happens on a step to a state. -/
def moveEvents (running : Running) (next : ChainState) : List Event :=
  [.said (running.chain.stepLine next), .passed (running.moved next)]

/-- What happens when a unit is entered. -/
def entryEvents (running : Running) (unit : PromptUnit) : List Event :=
  .passed running :: .passed (running.pushed unit.name)
    :: .passed ((running.pushed unit.name).noted unit.name)
    :: ((running.pushed unit.name).noted unit.name).moveEvents .awaitingModel

/-- With an arm chosen, which is to act. -/
def chosen (running : Running) (found : Match) : Running :=
  ((running.moved .matching).bound found).moved .acting

/-- What happens when an arm is chosen. -/
def choiceEvents (running : Running) (line : LogLine) (found : Match) : List Event :=
  running.moveEvents .matching ++ .passed (running.moved .matching) :: .said line
    :: .passed ((running.moved .matching).bound found)
    :: ((running.moved .matching).bound found).moveEvents .acting

@[simp]
theorem requests_moveEvents (running : Running) (next : ChainState) :
    requests (running.moveEvents next) = [] := by
  simp [moveEvents]

@[simp]
theorem requests_entryEvents (running : Running) (unit : PromptUnit) :
    requests (running.entryEvents unit) = [] := by
  simp [entryEvents]

@[simp]
theorem requests_choiceEvents (running : Running) (line : LogLine) (found : Match) :
    requests (running.choiceEvents line found) = [] := by
  simp [choiceEvents]

end Running

namespace PromptUnit

/-- Where a unit starts that is called: in the conversation of its caller, or in one without turns. -/
def outset (target : PromptUnit) (before : Running) : Running :=
  if target.history then before
  else { before with session := { before.session with turns := [] } }

/-- Where its caller goes on when it has ended. -/
def returned (target : PromptUnit) (before ended : Running) : Running :=
  if target.history then ended
  else { ended with session := { ended.session with turns := before.session.turns } }

/-- What happens in a call, around what happens in the unit. -/
def framed (target : PromptUnit) (before : Running) (events : List Event) (ended : Running) :
    List Event :=
  if target.history then events
  else .passed (target.outset before) :: events ++ [.passed (target.returned before ended)]

/-- The arm that a unit takes in a session, if one matches. -/
def choice (unit : PromptUnit) (session : Session) : Except Stop (Option Match) :=
  match session.lookup unit.subject with
  | none => .error (.fault (.unresolvedVariable unit.subject (some unit.name)))
  | some subject =>
    match firstMatch subject unit.arms with
    | .error torn => .error (.crashed (tornCrash torn))
    | .ok found => .ok found

@[simp]
theorem chain_outset (target : PromptUnit) (before : Running) :
    (target.outset before).chain = before.chain := by
  unfold outset
  split <;> rfl

@[simp]
theorem chain_returned (target : PromptUnit) (before ended : Running) :
    (target.returned before ended).chain = ended.chain := by
  unfold returned
  split <;> rfl

@[simp]
theorem requests_framed (target : PromptUnit) (before : Running) (events : List Event) (ended : Running) :
    requests (target.framed before events ended) = requests events := by
  unfold framed
  split <;> simp

end PromptUnit

/-- The command of an action, with what it is run for. -/
def Action.command? : Action → Option (Purpose × String)
  | shell command => some (.arm, command)
  | pipe command _ => some (.pipe, command)
  | call _ => none

/-! ### Asides -/

/-- What a chain has been through, apart from its warnings and outputs. -/
def Chain.course (chain : Chain) : Chain := { chain with warnings := [], outputs := [] }

/-- Why an event breaks a chain off, if it does. -/
def Event.breaks? : Event → Option Stop
  | .asked _ none | .ran _ .cancelled => some .cancelled
  | .asked _ (some (.crashed problem)) | .ran _ (.crashed problem) => some (.crashed problem)
  | _ => none

/-- Something on the side: the model is not asked, and the session and the course of the chain stay, at
every moment of it. It stops when a command breaks off, and else only for a variable that is not bound. -/
structure Aside {α : Type} (before : Running) (events : List Event) (after : Running)
    (result : Except Stop α) : Prop where
  session : after.session = before.session
  course : after.chain.course = before.chain.course
  moments : ∀ moment, Event.passed moment ∈ events →
    moment.session = before.session ∧ moment.chain.course = before.chain.course
  unasked : ∀ request reply, Event.asked request reply ∉ events
  broken : ∀ event ∈ events, ∀ reason, event.breaks? = some reason → result = .error reason
  stopped : ∀ reason, result = .error reason → (∃ event ∈ events, event.breaks? = some reason) ∨
    ∃ name unit, reason = .fault (.unresolvedVariable name unit)

theorem Aside.state_eq {α : Type} {result : Except Stop α} (aside : Aside before events after result) :
    after.chain.state = before.chain.state :=
  (congrArg Chain.state aside.course :)

theorem Aside.stack_eq {α : Type} {result : Except Stop α} (aside : Aside before events after result) :
    after.chain.stack = before.chain.stack :=
  (congrArg Chain.stack aside.course :)

namespace Act

variable {α β : Type}

/-- All runs of an act are asides. -/
def IsAside (act : Act α) : Prop :=
  ∀ before events after result, (act before).Runs events (after, result) →
    Aside before events after result

theorem isAside_pure (value : α) : IsAside (pure value) := by
  intro before events after result runs
  cases runs
  exact ⟨rfl, rfl, by simp, by simp, by simp, by simp⟩

/-- **Two asides in a row** are one: the first does not break off when the second follows. -/
theorem IsAside.bind {act : Act α} {next : α → Act β} (first : IsAside act)
    (second : ∀ value, IsAside (next value)) : IsAside (act >>= next) := by
  intro before events after result runs
  rcases runs_bind runs with ⟨early, late, middle, value, rfl, firstRuns, secondRuns⟩ |
    ⟨reason, stops, rfl⟩
  · have start := first before early middle _ firstRuns
    have rest := second value middle late after _ secondRuns
    refine ⟨rest.session.trans start.session, rest.course.trans start.course, ?_, ?_, ?_, ?_⟩
    · intro moment isEvent
      rcases List.mem_append.mp isEvent with isEarly | isLate
      · exact start.moments moment isEarly
      · obtain ⟨sameSession, sameCourse⟩ := rest.moments moment isLate
        exact ⟨sameSession.trans start.session, sameCourse.trans start.course⟩
    · intro request reply isEvent
      exact (List.mem_append.mp isEvent).elim (start.unasked request reply) (rest.unasked request reply)
    · intro event isEvent reason breaks
      rcases List.mem_append.mp isEvent with isEarly | isLate
      · cases start.broken event isEarly reason breaks
      · exact rest.broken event isLate reason breaks
    · intro reason ends
      rcases rest.stopped reason ends with ⟨event, isLate, breaks⟩ | unbound
      · exact Or.inl ⟨event, List.mem_append_right _ isLate, breaks⟩
      · exact Or.inr unbound
  · have start := first before events after _ stops
    refine ⟨start.session, start.course, start.moments, start.unasked, ?_, ?_⟩
    · intro event isEvent reason breaks
      cases start.broken event isEvent reason breaks
      rfl
    · intro reason ends
      cases ends
      exact start.stopped _ rfl

theorem isAside_running : IsAside running := by
  intro before events after result runs
  cases runs with
  | pass runs =>
    cases runs
    exact ⟨rfl, rfl, by simp, by simp, by simp [Event.breaks?], by simp⟩

theorem isAside_info (text : String) : IsAside (info text) := by
  intro before events after result runs
  cases runs with
  | say runs =>
    cases runs
    exact ⟨rfl, rfl, by simp, by simp, by simp [Event.breaks?], by simp⟩

theorem isAside_warn (fault : Fault) : IsAside (warn fault) := by
  intro before events after result runs
  cases runs with
  | say runs =>
    cases runs with
    | pass runs =>
      cases runs
      exact ⟨rfl, rfl, by simp [Chain.course, Chain.warn], by simp, by simp [Event.breaks?], by simp⟩

theorem isAside_run (request : CommandRequest) : IsAside (run request) := by
  intro before events after result runs
  cases runs with
  | run reply runs =>
    cases reply <;> cases runs <;>
      exact ⟨rfl, rfl, by simp, by simp, by simp [Event.breaks?], by simp [Event.breaks?]⟩

theorem isAside_ofExcept {found : Except Fault α}
    (unbound : ∀ fault, found = .error fault → ∃ name unit, fault = .unresolvedVariable name unit) :
    IsAside (ofExcept found) := by
  cases found with
  | ok value => exact isAside_pure value
  | error fault =>
    obtain ⟨name, unit, rfl⟩ := unbound fault rfl
    intro before events after result runs
    cases runs
    refine ⟨rfl, rfl, by simp, by simp, by simp, fun reason ends => ?_⟩
    cases ends
    exact Or.inr ⟨name, unit, rfl⟩

end Act

/-- A text can only fail for a variable that is not bound. -/
theorem unbound_of_interpolate {bindings : Bindings} {unit : Option String} {text : String}
    {fault : Fault} (failed : interpolate bindings unit text = .error fault) :
    ∃ name unit, fault = .unresolvedVariable name unit := by
  unfold interpolate at failed
  split at failed
  · cases failed
  · cases failed
    exact ⟨_, _, rfl⟩

theorem unbound_of_fillParts {bindings : Bindings} {unit : Option String} {parts : List FilledPart}
    {fault : Fault} (failed : fillParts bindings unit parts = .error fault) :
    ∃ name unit, fault = .unresolvedVariable name unit := by
  induction parts with
  | nil => cases failed
  | cons part parts ih =>
    cases part with
    | output printed =>
      rw [fillParts] at failed
      split at failed
      · cases failed
      · rename_i later
        cases failed
        exact ih later
    | text plain =>
      rw [fillParts] at failed
      split at failed
      · rename_i here
        cases failed
        exact unbound_of_interpolate here
      · split at failed
        · cases failed
        · rename_i later
          cases failed
          exact ih later

section Asides

open Act

/-- **A command of a unit is run on the side.** -/
theorem isAside_runCommand (purpose : Purpose) (unit : PromptUnit) (command : String) :
    IsAside (runCommand purpose unit command) := by
  unfold runCommand
  refine isAside_running.bind fun running => ?_
  refine (isAside_ofExcept fun fault failed => unbound_of_interpolate failed).bind fun text => ?_
  exact (isAside_info _).bind fun _ => (isAside_run _).bind fun result => isAside_pure _

theorem isAside_reportFailure (command : String) (result : CommandResult) :
    IsAside (reportFailure warn command result) := by
  unfold reportFailure
  split
  · exact isAside_pure ()
  · exact isAside_warn _

theorem isAside_runSegments (name : Option String) (workplace : Workplace) (segments : List Segment) :
    IsAside (runSegments warn name workplace segments) := by
  induction segments with
  | nil => exact isAside_pure []
  | cons segment segments ih =>
    cases segment with
    | text plain => exact ih.bind fun parts => isAside_pure _
    | shell command =>
      refine isAside_running.bind fun running => ?_
      refine (isAside_ofExcept fun fault failed => unbound_of_interpolate failed).bind fun text => ?_
      refine (isAside_run _).bind fun result => ?_
      exact (isAside_reportFailure text result).bind fun _ => ih.bind fun parts => isAside_pure _

/-- **A direction is resolved on the side.** -/
theorem isAside_resolve (name : Option String) (workplace : Workplace) (template : Template) :
    IsAside (resolve warn name workplace template) := by
  unfold resolve
  refine (isAside_runSegments name workplace template.segments).bind fun parts => ?_
  exact isAside_running.bind fun running => isAside_ofExcept fun fault failed =>
    unbound_of_fillParts failed

variable {before after : Running} {events : List Event}

theorem aside_of_runCommand {purpose : Purpose} {unit : PromptUnit} {command : String}
    {result : Except Stop (String × CommandResult)}
    (runs : (runCommand purpose unit command before).Runs events (after, result)) :
    Aside before events after result := isAside_runCommand _ _ _ _ _ _ _ runs

theorem aside_of_resolve {name : Option String} {workplace : Workplace} {template : Template}
    {result : Except Stop String}
    (runs : (resolve warn name workplace template before).Runs events (after, result)) :
    Aside before events after result := isAside_resolve _ _ _ _ _ _ _ runs

end Asides

/-! ### The rules -/

/-- The model is asked for an answer to a direction. -/
inductive Asks (setting : Setting) (unit : PromptUnit) (direction : String) (before : Running) :
    List Event → Except Stop String → Prop
  | noModel : Asks setting unit direction before [] (.error (.fault (.modelUnavailable noModelMessage)))
  | answered {line lineAfter : LogLine} {answer : String} :
    Asks setting unit direction before
      [.passed before, .said line,
        .asked ⟨unit.name, direction, before.session.history unit.history⟩ (some (.answer answer)),
        .said lineAfter] (.ok answer)
  | cancelled {line : LogLine} :
    Asks setting unit direction before
      [.passed before, .said line,
        .asked ⟨unit.name, direction, before.session.history unit.history⟩ none] (.error .cancelled)
  | unavailable {line : LogLine} {problem : String} :
    Asks setting unit direction before
      [.passed before, .said line,
        .asked ⟨unit.name, direction, before.session.history unit.history⟩ (some (.unavailable problem))]
      (.error (.fault (.modelUnavailable problem)))
  | late {line : LogLine} :
    Asks setting unit direction before
      [.passed before, .said line,
        .asked ⟨unit.name, direction, before.session.history unit.history⟩ (some .late)]
      (.error (.fault (.modelUnavailable (lateMessage setting.modelTimeout))))
  | crashed {line : LogLine} {problem : Crash} :
    Asks setting unit direction before
      [.passed before, .said line,
        .asked ⟨unit.name, direction, before.session.history unit.history⟩ (some (.crashed problem))]
      (.error (.crashed problem))

/-- A unit comes to the answer to its direction. -/
inductive Hears (setting : Setting) (unit : PromptUnit) (before : Running) :
    List Event → Running → Except Stop Turn → Prop
  | unresolved {events : List Event} {after : Running} {reason : Stop}
    (resolving : (resolve Act.warn (some unit.name) unit.workplace unit.direction before).Runs
      events (after, .error reason)) : Hears setting unit before events after (.error reason)
  | unanswered {early late : List Event} {after : Running} {direction : String} {reason : Stop}
    (resolving : (resolve Act.warn (some unit.name) unit.workplace unit.direction before).Runs
      early (after, .ok direction)) (asking : Asks setting unit direction after late (.error reason)) :
    Hears setting unit before (early ++ late) after (.error reason)
  | answered {early late : List Event} {after : Running} {direction answer : String}
    (resolving : (resolve Act.warn (some unit.name) unit.workplace unit.direction before).Runs
      early (after, .ok direction)) (asking : Asks setting unit direction after late (.ok answer)) :
    Hears setting unit before (early ++ late) after (.ok ⟨direction, answer, some unit.name⟩)

/-- A chain is acting again after a call. -/
inductive Resumes (before : Running) : List Event → Running → Prop
  | stays (acting : before.chain.state = .acting) : Resumes before [] before
  | goes (matching : before.chain.state = .matching) :
    Resumes before (before.moveEvents .acting) (before.moved .acting)

/-- What a chain has to do. -/
inductive Task where
  | enter (unit : PromptUnit)
  /-- To choose an arm of a unit by its answer, and act. -/
  | choose (unit : PromptUnit)
  | act (unit : PromptUnit) (action : Action)
  /-- To call units, after an outcome. -/
  | call (caller : PromptUnit) (outcome : Outcome) (targets : List String)

/-- The runs of tasks in which calls may nest so deep. -/
inductive TaskRun (setting : Setting) :
    Nat → Task → Running → List Event → Running → Except Stop Outcome → Prop
  | refused {depth : Nat} {unit : PromptUnit} {before : Running} (isLoaded : unit ∈ setting.program.loaded)
    (reason : depth = 0 ∨ before.chain.inFlight unit.name = true) :
    TaskRun setting depth (.enter unit) before [.passed before] before
      (.error (.fault (.cyclicInvocation before.chain.stack unit.name)))
  | unheard {depth : Nat} {unit : PromptUnit} {before ended : Running} {events : List Event}
    {reason : Stop} (isLoaded : unit ∈ setting.program.loaded)
    (free : before.chain.inFlight unit.name = false)
    (ready : before.chain.state.mayGo .awaitingModel = true)
    (hearing : Hears setting unit (before.entered unit) events ended (.error reason)) :
    TaskRun setting (depth + 1) (.enter unit) before
      (before.entryEvents unit ++ (events ++ [.passed ended.left])) ended.left (.error reason)
  | heard {depth : Nat} {unit : PromptUnit} {before middle ended : Running} {early late : List Event}
    {turn : Turn} {result : Except Stop Outcome} (isLoaded : unit ∈ setting.program.loaded)
    (free : before.chain.inFlight unit.name = false)
    (ready : before.chain.state.mayGo .awaitingModel = true)
    (hearing : Hears setting unit (before.entered unit) early middle (.ok turn))
    (choosing : TaskRun setting depth (.choose unit) (middle.told turn) late ended result) :
    TaskRun setting (depth + 1) (.enter unit) before
      (before.entryEvents unit ++ (early ++ .passed (middle.told turn) :: (late ++ [.passed ended.left])))
      ended.left result
  | undecided {depth : Nat} {unit : PromptUnit} {before : Running} {reason : Stop}
    (waiting : before.chain.state = .awaitingModel)
    (chosen : unit.choice before.session = .error reason) :
    TaskRun setting depth (.choose unit) before
      (before.moveEvents .matching ++ [.passed (before.moved .matching)]) (before.moved .matching)
      (.error reason)
  | unmatched {depth : Nat} {unit : PromptUnit} {before : Running} {line : LogLine}
    (waiting : before.chain.state = .awaitingModel)
    (chosen : unit.choice before.session = .ok none) :
    TaskRun setting depth (.choose unit) before
      (before.moveEvents .matching ++ [.passed (before.moved .matching), .said line])
      (before.moved .matching) (.ok .noMatch)
  | matched {depth : Nat} {unit : PromptUnit} {before after : Running} {found : Match}
    {later : List Event} {result : Except Stop Outcome}
    (waiting : before.chain.state = .awaitingModel)
    (chosen : unit.choice before.session = .ok (some found))
    (acting : TaskRun setting depth (.act unit found.arm.action) (before.chosen found) later after result) :
    TaskRun setting depth (.choose unit) before
      (before.choiceEvents ⟨.info, matchedMessage unit found⟩ found ++ later) after result
  | halted {depth : Nat} {unit : PromptUnit} {action : Action} {purpose : Purpose} {command : String}
    {before after : Running} {events : List Event} {reason : Stop}
    (isCommand : action.command? = some (purpose, command))
    (running : (runCommand purpose unit command before).Runs events (after, .error reason)) :
    TaskRun setting depth (.act unit action) before events after (.error reason)
  | printed {depth : Nat} {unit : PromptUnit} {command text : String} {given : CommandResult}
    {before middle : Running} {events : List Event} (fine : given.ok = true)
    (running : (runCommand .arm unit command before).Runs events (middle, .ok (text, given))) :
    TaskRun setting depth (.act unit (.shell command)) before (events ++ [.passed (middle.printed given)])
      (middle.printed given) (.ok .success)
  | failed {depth : Nat} {unit : PromptUnit} {command text : String} {given : CommandResult}
    {before middle : Running} {events : List Event} (bad : given.ok = false)
    (running : (runCommand .arm unit command before).Runs events (middle, .ok (text, given))) :
    TaskRun setting depth (.act unit (.shell command)) before
      (events ++ [.passed (middle.printed given), .said (Chain.warningLine (.commandFailed text given)),
        .passed { middle.printed given with
          chain := (middle.printed given).chain.warn (.commandFailed text given) }])
      { middle.printed given with
        chain := (middle.printed given).chain.warn (.commandFailed text given) } (.ok .commandFailed)
  | pipeFailed {depth : Nat} {unit : PromptUnit} {command text : String} {targets : List String}
    {given : CommandResult} {before after : Running} {events : List Event} (bad : given.ok = false)
    (running : (runCommand .pipe unit command before).Runs events (after, .ok (text, given))) :
    TaskRun setting depth (.act unit (.pipe command targets)) before events after
      (.error (.fault (.commandFailed text given)))
  | piped {depth : Nat} {unit : PromptUnit} {command text : String} {targets : List String}
    {given : CommandResult} {before middle after : Running} {events later : List Event} {line : LogLine}
    {result : Except Stop Outcome} (fine : given.ok = true)
    (running : (runCommand .pipe unit command before).Runs events (middle, .ok (text, given)))
    (calling : TaskRun setting depth (.call unit .success targets)
      (middle.piped (trimOutput given.stdout)) later after result) :
    TaskRun setting depth (.act unit (.pipe command targets)) before
      (events ++ .passed (middle.piped (trimOutput given.stdout)) :: .said line :: later) after result
  | called {depth : Nat} {unit : PromptUnit} {targets : List String} {before after : Running}
    {events : List Event} {result : Except Stop Outcome}
    (calling : TaskRun setting depth (.call unit .success targets) before events after result) :
    TaskRun setting depth (.act unit (.call targets)) before events after result
  | finished {depth : Nat} {caller : PromptUnit} {outcome : Outcome} {before : Running} :
    TaskRun setting depth (.call caller outcome []) before [] before (.ok outcome)
  | unresolved {depth : Nat} {caller : PromptUnit} {outcome : Outcome} {name : String}
    {rest : List String} {before : Running} (isCall : setting.program.HasCall caller name)
    (missing : setting.program.lookup name = none) :
    TaskRun setting depth (.call caller outcome (name :: rest)) before [] before
      (.error (.fault (.source .unresolvedReference (notLoadedMessage caller.name name)
        { source := caller.source })))
  | cyclic {depth : Nat} {caller target : PromptUnit} {outcome : Outcome} {name : String}
    {rest : List String} {before : Running} (isCall : setting.program.HasCall caller name)
    (found : setting.program.lookup name = some target)
    (inFlight : before.chain.inFlight target.name = true) :
    TaskRun setting depth (.call caller outcome (name :: rest)) before [.passed before] before
      (.error (.fault (.cyclicInvocation before.chain.stack target.name)))
  | stopped {depth : Nat} {caller target : PromptUnit} {outcome : Outcome} {name : String}
    {rest : List String} {before ended : Running} {events : List Event} {line : LogLine} {reason : Stop}
    (isCall : setting.program.HasCall caller name)
    (found : setting.program.lookup name = some target)
    (free : before.chain.inFlight target.name = false)
    (entering : TaskRun setting depth (.enter target) (target.outset before) events ended
      (.error reason)) :
    TaskRun setting depth (.call caller outcome (name :: rest)) before
      (.passed before :: .said line :: target.framed before events ended)
      (target.returned before ended) (.error reason)
  | next {depth : Nat} {caller target : PromptUnit} {outcome given : Outcome} {name : String}
    {rest : List String} {before ended middle after : Running} {events steps later : List Event}
    {line : LogLine} {result : Except Stop Outcome}
    (isCall : setting.program.HasCall caller name)
    (found : setting.program.lookup name = some target)
    (free : before.chain.inFlight target.name = false)
    (entering : TaskRun setting depth (.enter target) (target.outset before) events ended (.ok given))
    (resuming : Resumes (target.returned before ended) steps middle)
    (calling : TaskRun setting depth (.call caller given rest) middle later after result) :
    TaskRun setting depth (.call caller outcome (name :: rest)) before
      (.passed before :: .said line :: (target.framed before events ended ++ (steps ++ later))) after
      result

/-! ### In which state a task ends -/

theorem Hears.aside {setting : Setting} {unit : PromptUnit} {result : Except Stop Turn}
    (hears : Hears setting unit before events after result) :
    after.session = before.session ∧ after.chain.course = before.chain.course := by
  cases hears with
  | unresolved resolving | unanswered resolving _ | answered resolving _ =>
    have aside := aside_of_resolve resolving
    exact ⟨aside.session, aside.course⟩

/-- Where a task ends that began in a state: a unit has matched or acted, and the rest acts as before. -/
def Task.Ends (start finish : ChainState) : Task → Prop
  | enter _ | choose _ => finish = .matching ∨ finish = .acting
  | act _ _ | call _ _ _ => start = .acting → finish = .acting

theorem Resumes.acting {middle : Running} {steps : List Event} (resumes : Resumes before steps middle) :
    middle.chain.state = .acting := by
  cases resumes with
  | stays acting => exact acting
  | goes _ => rfl

theorem Resumes.requests_eq {middle : Running} {steps : List Event} (resumes : Resumes before steps middle) :
    requests steps = [] := by
  cases resumes <;> rfl

/-- **A task that is not stopped ends in the state that its caller can go on from.** -/
theorem TaskRun.ends {setting : Setting} {depth : Nat} {task : Task} {result : Except Stop Outcome}
    (run : TaskRun setting depth task before events after result) {outcome : Outcome}
    (isOk : result = .ok outcome) : task.Ends before.chain.state after.chain.state := by
  induction run generalizing outcome with
  | refused | unheard | undecided | halted | pipeFailed | unresolved | cyclic | stopped => cases isOk
  | heard _ _ _ _ _ choosing => exact choosing isOk
  | unmatched => exact Or.inl rfl
  | matched _ _ _ acting => exact Or.inr (acting isOk rfl)
  | printed _ running | failed _ running =>
    intro start
    have aside := aside_of_runCommand running
    exact aside.state_eq.trans start
  | piped _ running _ calling =>
    intro start
    have aside := aside_of_runCommand running
    exact calling isOk (aside.state_eq.trans start)
  | called _ calling => exact calling isOk
  | finished => exact id
  | next _ _ _ _ resuming _ _ calling => exact fun _ => calling isOk resuming.acting

/-! ### The units in flight -/

section Flight

variable {setting : Setting} {depth : Nat} {task : Task} {before after : Running} {events : List Event}
  {result : Except Stop Outcome}

theorem Hears.stack_eq {unit : PromptUnit} {heard : Except Stop Turn}
    (hears : Hears setting unit before events after heard) : after.chain.stack = before.chain.stack :=
  (congrArg Chain.stack hears.aside.2 :)

theorem Resumes.stack_eq (resumes : Resumes before events after) :
    after.chain.stack = before.chain.stack := by
  cases resumes <;> rfl

/-- **A task leaves the units in flight as they were.** -/
theorem TaskRun.stack_eq (run : TaskRun setting depth task before events after result) :
    after.chain.stack = before.chain.stack := by
  induction run with
  | refused | undecided | unmatched | unresolved | cyclic | finished => rfl
  | unheard _ _ _ hearing =>
    exact (congrArg List.dropLast hearing.stack_eq).trans List.dropLast_concat
  | heard _ _ _ hearing _ choosing =>
    show List.dropLast _ = _
    rw [choosing]
    exact (congrArg List.dropLast hearing.stack_eq).trans List.dropLast_concat
  | matched _ _ _ acting => exact acting
  | halted _ running | printed _ running | failed _ running | pipeFailed _ running =>
    exact (aside_of_runCommand running).stack_eq
  | piped _ running _ calling =>
    exact calling.trans (aside_of_runCommand running).stack_eq
  | called _ calling => exact calling
  | stopped _ _ _ _ entering => simpa using entering
  | next _ _ _ _ resuming _ entering calling =>
    rw [calling, resuming.stack_eq]
    simpa using entering

end Flight

/-! ### Steps between states -/

theorem ChainState.ne_of_mayGo {state next : ChainState} (may : state.mayGo next = true) :
    next ≠ state := by
  rintro rfl
  cases next <;> cases may

namespace Act

variable {α : Type} {before after : Running} {events : List Event} {result : Except Stop α}
  {rest : Unit → Act α}

/-- A legal step is taken. -/
theorem runs_goTo_bind {next : ChainState} (may : before.chain.state.mayGo next = true)
    (runs : ((goTo next >>= rest) before).Runs events (after, result)) :
    ∃ later, events = before.moveEvents next ++ later ∧
      (rest () (before.moved next)).Runs later (after, result) := by
  have taken : before.chain.step next = .goes (before.moved next).chain (before.chain.stepLine next) := by
    unfold Chain.step
    rw [if_neg (ChainState.ne_of_mayGo may), if_pos may]
    rfl
  have reached : goTo next before
      = .say (before.chain.stepLine next) (arrive (before.moved next) (.ok ())) := by
    unfold goTo
    rw [taken]
    rfl
  change ((goTo next before).bind _).Runs events (after, result) at runs
  rw [reached] at runs
  cases runs with
  | say runs =>
    cases runs with
    | pass runs => exact ⟨_, rfl, runs⟩

/-- A step to the state in which the chain is does nothing. -/
theorem runs_goTo_bind_of_there {next : ChainState} (there : before.chain.state = next)
    (runs : ((goTo next >>= rest) before).Runs events (after, result)) :
    (rest () before).Runs events (after, result) := by
  have stays : goTo next before = .done (before, .ok ()) := by
    unfold goTo Chain.step
    rw [if_pos there.symm]
  change ((goTo next before).bind _).Runs events (after, result) at runs
  rwa [stays] at runs

/-- An act between a state that is entered and one that is left. -/
theorem runs_within {act : Act α} {entered : Running} {leave : Running → Running}
    (runs : (Query.pass entered ((act entered).bind fun ended =>
      arrive (leave ended.1) ended.2)).Runs events (after, result)) :
    ∃ inner ended, (act entered).Runs inner (ended, result) ∧
      events = .passed entered :: (inner ++ [.passed (leave ended)]) ∧ after = leave ended := by
  cases runs with
  | pass runs =>
    obtain ⟨inner, last, ⟨ended, given⟩, rfl, actRuns, leaveRuns⟩ := Query.runs_bind runs
    cases leaveRuns with
    | pass leaveRuns =>
      cases leaveRuns
      exact ⟨inner, ended, actRuns, rfl, rfl⟩

theorem runs_inFlight {name : String} {act : Act α}
    (runs : (inFlight name act before).Runs events (after, result)) :
    ∃ inner ended, (act (before.pushed name)).Runs inner (ended, result) ∧
      events = .passed (before.pushed name) :: (inner ++ [.passed ended.left]) ∧ after = ended.left :=
  runs_within runs

end Act

/-! ### Every run is made by the rules -/

section Decomposition

open Act

variable {setting : Setting} {unit : PromptUnit} {before after : Running} {events : List Event}
  {depth : Nat} {result : Except Stop Outcome}

theorem asks_of_runs {direction : String} {result : Except Stop String}
    (runs : (askModel setting unit direction before).Runs events (after, result)) :
    after = before ∧ Asks setting unit direction before events result := by
  unfold askModel at runs
  split at runs
  · cases runs
    exact ⟨rfl, .noModel⟩
  · obtain ⟨later, rfl, afterRead⟩ := runs_running_bind runs
    obtain ⟨last, rfl, asking⟩ := runs_info_bind afterRead
    cases asking with
    | ask reply taking =>
      cases reply with
      | none =>
        cases taking
        exact ⟨rfl, .cancelled⟩
      | some reply =>
        cases reply with
        | answer text =>
          obtain ⟨none, rfl, ending⟩ := runs_info_bind taking
          cases ending
          exact ⟨rfl, .answered⟩
        | unavailable problem =>
          cases taking
          exact ⟨rfl, .unavailable⟩
        | late =>
          cases taking
          exact ⟨rfl, .late⟩
        | crashed problem =>
          cases taking
          exact ⟨rfl, .crashed⟩

/-- A unit that is called runs in its own place, and its caller goes on in the caller's. -/
theorem runs_enterTarget {enter : PromptUnit → Act Outcome} {target : PromptUnit}
    (runs : (enterTarget enter target before).Runs events (after, result)) :
    ∃ inner ended, (enter target (target.outset before)).Runs inner (ended, result) ∧
      events = target.framed before inner ended ∧ after = target.returned before ended := by
  unfold enterTarget at runs
  unfold PromptUnit.framed PromptUnit.returned PromptUnit.outset
  split at runs
  · rename_i shared
    simp only [shared, if_true]
    exact ⟨events, after, runs, rfl, rfl⟩
  · rename_i alone
    simp only [alone]
    exact runs_within runs

theorem hears_of_runs (rest : Turn → Act Outcome)
    (runs : ((resolve Act.warn (some unit.name) unit.workplace unit.direction >>= fun direction =>
      askModel setting unit direction >>= fun answer =>
        rest ⟨direction, answer, some unit.name⟩) before).Runs events (after, result)) :
    (∃ early late middle turn, events = early ++ late ∧
      Hears setting unit before early middle (.ok turn) ∧ (rest turn middle).Runs late (after, result)) ∨
    ∃ reason, Hears setting unit before events after (.error reason) ∧ result = .error reason := by
  rcases runs_bind runs with ⟨early, late, middle, direction, rfl, resolving, asking⟩ |
    ⟨reason, resolving, rfl⟩
  · rcases runs_bind asking with ⟨heard, last, same, answer, rfl, answering, going⟩ |
      ⟨reason, answering, rfl⟩
    · obtain ⟨rfl, asks⟩ := asks_of_runs answering
      refine Or.inl ⟨early ++ heard, last, same, _, (List.append_assoc _ _ _).symm, ?_, going⟩
      exact .answered resolving asks
    · obtain ⟨rfl, asks⟩ := asks_of_runs answering
      exact Or.inr ⟨reason, .unanswered resolving asks, rfl⟩
  · exact Or.inr ⟨reason, .unresolved resolving, rfl⟩

theorem mem_loaded_of_lookup {program : Program} {name : String} {unit : PromptUnit}
    (found : program.lookup name = some unit) : unit ∈ program.loaded :=
  List.mem_map.mpr ⟨_, Assoc.mem_of_get? found, rfl⟩

/-- Runs of units with a depth are made by the rules. -/
def EntersByRules (setting : Setting) (depth : Nat) : Prop :=
  ∀ {unit : PromptUnit} {before after : Running} {events : List Event} {result : Except Stop Outcome},
    unit ∈ setting.program.loaded → before.chain.state.mayGo .awaitingModel = true →
      (runUnit setting depth unit before).Runs events (after, result) →
        TaskRun setting depth (.enter unit) before events after result

/-- After a call the chain acts again. -/
theorem runs_resume {rest : Unit → Act Outcome}
    (ended : before.chain.state = .matching ∨ before.chain.state = .acting)
    (runs : ((goTo .acting >>= rest) before).Runs events (after, result)) :
    ∃ steps later middle, events = steps ++ later ∧ Resumes before steps middle ∧
      (rest () middle).Runs later (after, result) := by
  rcases ended with matching | acting
  · obtain ⟨later, rfl, going⟩ := runs_goTo_bind (by rw [matching]; rfl) runs
    exact ⟨_, later, _, rfl, .goes matching, going⟩
  · exact ⟨[], events, before, rfl, .stays acting, runs_goTo_bind_of_there acting runs⟩

/-- The calls of a unit. -/
theorem EntersByRules.call (enters : EntersByRules setting depth) {caller : PromptUnit}
    {outcome : Outcome} {targets : List String}
    (areCalls : ∀ name ∈ targets, setting.program.HasCall caller name)
    (acting : before.chain.state = .acting)
    (runs : (callTargets setting.program (runUnit setting depth) caller outcome targets before).Runs
      events (after, result)) :
    TaskRun setting depth (.call caller outcome targets) before events after result := by
  induction targets generalizing before events outcome with
  | nil =>
    cases runs
    exact .finished
  | cons name rest ih =>
    obtain ⟨isCall, areLater⟩ := List.forall_mem_cons.mp areCalls
    rw [callTargets] at runs
    cases found : setting.program.lookup name with
    | none =>
      rw [found] at runs
      cases runs
      exact .unresolved isCall found
    | some target =>
      rw [found] at runs
      obtain ⟨later, rfl, afterRead⟩ := runs_running_bind runs
      dsimp only at afterRead
      split at afterRead
      · rename_i inFlight
        cases afterRead
        exact .cyclic isCall found inFlight
      · rename_i free
        rw [Bool.not_eq_true] at free
        have isTarget := mem_loaded_of_lookup found
        have ready : (target.outset before).chain.state.mayGo .awaitingModel = true := by
          rw [target.chain_outset, acting]
          rfl
        obtain ⟨inside, rfl, calling⟩ := runs_info_bind afterRead
        rcases runs_bind calling with ⟨early, late, middle, given, rfl, entering, going⟩ |
          ⟨reason, entering, rfl⟩
        · obtain ⟨inner, ended, innerRuns, rfl, rfl⟩ := runs_enterTarget entering
          have entered := enters isTarget ready innerRuns
          obtain ⟨steps, last, resumed, rfl, resuming, calls⟩ :=
            runs_resume (target.chain_returned before ended ▸ entered.ends rfl) going
          exact .next isCall found free entered resuming (ih areLater resuming.acting calls)
        · obtain ⟨inner, ended, innerRuns, rfl, rfl⟩ := runs_enterTarget entering
          exact .stopped isCall found free (enters isTarget ready innerRuns)

/-- The action of an arm. -/
theorem EntersByRules.act (enters : EntersByRules setting depth) {arm : Arm}
    (isLoaded : unit ∈ setting.program.loaded) (isArm : arm ∈ unit.arms)
    (acting : before.chain.state = .acting)
    (runs : (carryOut setting.program (runUnit setting depth) unit arm.action before).Runs
      events (after, result)) :
    TaskRun setting depth (.act unit arm.action) before events after result := by
  have areCalls : ∀ name ∈ arm.action.targets, setting.program.HasCall unit name :=
    fun name isTarget => ⟨isLoaded, arm, isArm, isTarget⟩
  cases action : arm.action with
  | shell command =>
    rw [action] at runs
    rcases runs_bind runs with ⟨early, late, middle, ⟨text, given⟩, rfl, running, going⟩ |
      ⟨reason, running, rfl⟩
    · obtain ⟨later, rfl, ending⟩ := runs_modifyChain_bind going
      split at ending
      · rename_i fine
        cases ending
        exact .printed fine running
      · rename_i bad
        obtain ⟨last, rfl, ended⟩ := runs_warn_bind ending
        cases ended
        exact .failed (Bool.not_eq_true _ ▸ bad) running
    · exact .halted rfl running
  | call targets =>
    rw [action] at runs areCalls
    exact .called (enters.call areCalls acting runs)
  | pipe command targets =>
    rw [action] at runs areCalls
    rcases runs_bind runs with ⟨early, late, middle, ⟨text, given⟩, rfl, running, going⟩ |
      ⟨reason, running, rfl⟩
    · have aside := aside_of_runCommand running
      have actingStill : middle.chain.state = .acting := aside.state_eq.trans acting
      dsimp only at going
      split at going
      · rename_i bad
        cases going
        rw [List.append_nil]
        exact .pipeFailed (by simpa using bad) running
      · rename_i fine
        obtain ⟨later, rfl, piped⟩ := runs_modifySession_bind going
        obtain ⟨last, rfl, calling⟩ := runs_info_bind piped
        exact .piped (by simpa using fine) running (enters.call areCalls actingStill calling)
    · exact .halted rfl running

/-- The choice of an arm. -/
theorem EntersByRules.choose (enters : EntersByRules setting depth)
    (isLoaded : unit ∈ setting.program.loaded) (waiting : before.chain.state = .awaitingModel)
    (runs : (matchAndAct setting.program (runUnit setting depth) unit before).Runs
      events (after, result)) :
    TaskRun setting depth (.choose unit) before events after result := by
  obtain ⟨later, rfl, afterStep⟩ := runs_goTo_bind (by rw [waiting]; rfl) runs
  obtain ⟨last, rfl, choosing⟩ := runs_running_bind afterStep
  have unchanged : (before.moved .matching).session = before.session := rfl
  cases isSubject : before.session.lookup unit.subject with
  | none =>
    rw [unchanged, isSubject] at choosing
    cases choosing
    exact .undecided waiting (by rw [PromptUnit.choice, isSubject])
  | some subject =>
    rw [unchanged, isSubject] at choosing
    dsimp only at choosing
    cases matched : firstMatch subject unit.arms with
    | error torn =>
      rw [matched] at choosing
      cases choosing
      exact .undecided waiting (by simp only [PromptUnit.choice, isSubject, matched])
    | ok found =>
      rw [matched] at choosing
      have chosen : unit.choice before.session = .ok found := by
        simp only [PromptUnit.choice, isSubject, matched]
      cases found with
      | none =>
        obtain ⟨none, rfl, ending⟩ := runs_info_bind choosing
        cases ending
        exact .unmatched waiting chosen
      | some found =>
        obtain ⟨binding, rfl, afterLine⟩ := runs_info_bind choosing
        obtain ⟨moving, rfl, afterBinding⟩ := runs_modifySession_bind afterLine
        obtain ⟨acts, rfl, acting⟩ := runs_goTo_bind rfl afterBinding
        exact .matched waiting chosen (enters.act isLoaded (mem_of_firstMatch matched) rfl acting)

/-- A unit that is entered. -/
theorem EntersByRules.enter (enters : EntersByRules setting depth) :
    EntersByRules setting (depth + 1) := by
  intro unit before after events result isLoaded ready runs
  obtain ⟨later, rfl, entering⟩ := runs_running_bind runs
  dsimp only at entering
  split at entering
  · rename_i inFlight
    cases entering
    exact .refused isLoaded (Or.inr inFlight)
  · rename_i free
    rw [Bool.not_eq_true] at free
    obtain ⟨inner, ended, driving, rfl, rfl⟩ := runs_inFlight entering
    obtain ⟨noted, rfl, afterNote⟩ := runs_modifyChain_bind driving
    have mayWait : ((before.pushed unit.name).noted unit.name).chain.state.mayGo .awaitingModel = true :=
      ready
    obtain ⟨waits, rfl, waiting⟩ := runs_goTo_bind mayWait afterNote
    rcases hears_of_runs (fun turn => do
      modifySession fun session => session.appendTurn turn
      matchAndAct setting.program (runUnit setting depth) unit) waiting with
      ⟨early, late, middle, turn, rfl, hearing, going⟩ | ⟨reason, hearing, rfl⟩
    · obtain ⟨choices, rfl, choosing⟩ := runs_modifySession_bind going
      have waitsStill : middle.chain.state = .awaitingModel := congrArg Chain.state hearing.aside.2
      have run := TaskRun.heard isLoaded free ready hearing (enters.choose isLoaded waitsStill choosing)
      simp only [List.cons_append, List.append_assoc]
      exact run
    · simp only [List.cons_append, List.append_assoc]
      exact .unheard isLoaded free ready hearing

/-- **Every run of a loaded unit is made by the rules**, from a state in which a unit can be entered. -/
theorem taskRun_of_runs (depth : Nat) : EntersByRules setting depth := by
  induction depth with
  | zero =>
    intro unit before after events result isLoaded ready runs
    obtain ⟨later, rfl, stops⟩ := runs_running_bind runs
    cases stops
    exact .refused isLoaded (Or.inl rfl)
  | succ depth ih => exact ih.enter

/-- A run from a name: the unit of the name is entered, or there is none. -/
theorem runs_runNamed {name : String} {session : Session}
    (runs : (runNamed setting name session).Runs events (after, result)) :
    (setting.program.lookup name = none ∧ events = [] ∧ after = ⟨{ root := name }, session⟩ ∧
      result = .error (.fault (startFault setting.program name))) ∨
    ∃ unit, setting.program.lookup name = some unit ∧
      TaskRun setting setting.program.units.length (.enter unit) ⟨{ root := unit.name }, session⟩
        events after result := by
  unfold runNamed at runs
  split at runs
  · rename_i missing
    cases runs
    exact Or.inl ⟨missing, rfl, rfl, rfl⟩
  · rename_i unit found
    exact Or.inr ⟨unit, found, taskRun_of_runs _ (mem_loaded_of_lookup found) rfl runs⟩

end Decomposition

end PromptChain
