/-
**Every chain goes through its states by legal steps.**

A chain on its way is on course (`Chain.OnCourse`): it started idle, each of its steps was legal, none led
to the end, it waited for the model once for each unit that it entered, and it matched once for each
answer. The rules of `TaskRun` keep a chain on course (`TaskRun.onCourse`), so that its last step, to the
end, is legal too.

Main statement: `invoke_follows_states`, for every program, name, session and host.
-/

import Mathlib.Data.List.Chain
import PromptChain.Proofs.Endings

namespace PromptChain

/-! ### Chains on course -/

/-- A chain has come to its state by legal steps, and is not at its end. -/
structure Chain.IsLegal (chain : Chain) : Prop where
  started : chain.states.head? = some .idle
  unended : ChainState.terminal ∉ chain.states
  last : chain.states.getLast? = some chain.state
  steps : chain.states.IsChain fun state next => state.mayGo next = true

/-- A legal chain waited once for each unit, and matched so many answers. -/
structure Chain.OnCourse (chain : Chain) (answers : Nat) : Prop extends chain.IsLegal where
  entered : chain.states.count .awaitingModel = chain.trail.length
  matched : chain.states.count .matching = answers

theorem Chain.onCourse_new (root : String) : Chain.OnCourse { root } 0 where
  started := rfl
  unended := by simp
  last := rfl
  steps := .singleton _
  entered := rfl
  matched := rfl

/-- **A legal step keeps a chain legal**, unless it ends it. -/
theorem Chain.IsLegal.moved {running : Running} {next : ChainState} (legal : running.chain.IsLegal)
    (may : running.chain.state.mayGo next = true) (goesOn : next ≠ .terminal) :
    (running.moved next).chain.IsLegal where
  started := by simp [Running.moved, legal.started]
  unended := by simp [Running.moved, legal.unended, goesOn.symm]
  last := by simp [Running.moved]
  steps := by
    refine List.isChain_append.mpr ⟨legal.steps, .singleton _, fun state isLast other isNext => ?_⟩
    rw [legal.last, Option.mem_some_iff] at isLast
    cases isNext
    exact isLast ▸ may

theorem ChainState.mayGo_terminal {state : ChainState} (unended : state ≠ .terminal) :
    state.mayGo .terminal = true := by
  cases state with
  | terminal => exact absurd rfl unended
  | _ => rfl

theorem Chain.IsLegal.state_ne_terminal {chain : Chain} (legal : chain.IsLegal) :
    chain.state ≠ .terminal := by
  intro ended
  exact legal.unended (ended ▸ List.mem_of_getLast? legal.last)

namespace Chain.OnCourse

variable {running : Running} {answers : Nat}

/-- Nothing else of a chain matters. -/
theorem congr {chain other : Chain} (onCourse : chain.OnCourse answers) (states : other.states = chain.states)
    (state : other.state = chain.state) (trail : other.trail = chain.trail) : other.OnCourse answers := by
  obtain ⟨⟨started, unended, last, steps⟩, entered, matched⟩ := onCourse
  rw [← states] at started unended last steps entered matched
  rw [← state] at last
  rw [← trail] at entered
  exact ⟨⟨started, unended, last, steps⟩, entered, matched⟩

@[simp]
theorem left_iff : running.left.chain.OnCourse answers ↔ running.chain.OnCourse answers :=
  ⟨fun onCourse => onCourse.congr rfl rfl rfl, fun onCourse => onCourse.congr rfl rfl rfl⟩

@[simp]
theorem printed_iff {result : CommandResult} :
    (running.printed result).chain.OnCourse answers ↔ running.chain.OnCourse answers :=
  ⟨fun onCourse => onCourse.congr rfl rfl rfl, fun onCourse => onCourse.congr rfl rfl rfl⟩

@[simp]
theorem warn_iff {chain : Chain} {fault : Fault} :
    (chain.warn fault).OnCourse answers ↔ chain.OnCourse answers :=
  ⟨fun onCourse => onCourse.congr rfl rfl rfl, fun onCourse => onCourse.congr rfl rfl rfl⟩

theorem of_course {chain other : Chain} (onCourse : chain.OnCourse answers)
    (same : other.course = chain.course) : other.OnCourse answers := by
  have states : other.course.states = chain.course.states := by rw [same]
  have state : other.course.state = chain.course.state := by rw [same]
  have trail : other.course.trail = chain.course.trail := by rw [same]
  exact onCourse.congr states state trail

/-- A unit is entered: it is on the trail, and waits. -/
theorem toAwaiting (onCourse : running.chain.OnCourse answers) (unit : PromptUnit)
    (ready : running.chain.state.mayGo .awaitingModel = true) :
    (running.entered unit).chain.OnCourse answers where
  toIsLegal := by
    have noted : ((running.pushed unit.name).noted unit.name).chain.IsLegal :=
      ⟨onCourse.started, onCourse.unended, onCourse.last, onCourse.steps⟩
    exact noted.moved ready (by decide)
  entered := by
    simp [Running.entered, Running.moved, Running.noted, Running.pushed, Chain.push, onCourse.entered]
  matched := by
    simp [Running.entered, Running.moved, Running.noted, Running.pushed, Chain.push, onCourse.matched]

/-- An answer is matched. -/
theorem toMatching (onCourse : running.chain.OnCourse answers)
    (waiting : running.chain.state = .awaitingModel) :
    (running.moved .matching).chain.OnCourse (answers + 1) where
  toIsLegal := onCourse.toIsLegal.moved (by rw [waiting]; rfl) (by decide)
  entered := by simp [Running.moved, onCourse.entered]
  matched := by simp [Running.moved, onCourse.matched]

theorem toActing (onCourse : running.chain.OnCourse answers) (matching : running.chain.state = .matching) :
    (running.moved .acting).chain.OnCourse answers where
  toIsLegal := onCourse.toIsLegal.moved (by rw [matching]; rfl) (by decide)
  entered := by simp [Running.moved, onCourse.entered]
  matched := by simp [Running.moved, onCourse.matched]

end Chain.OnCourse

/-! ### Answers in a run -/

theorem countP_requests (events : List Event) :
    (requests events).countP Event.isAnswer = events.countP Event.isAnswer := by
  rw [requests, List.countP_filter]
  refine List.countP_congr fun event _ => ?_
  cases event <;> simp [Event.isAnswer, Event.isRequest]

section Answers

variable {setting : Setting} {unit : PromptUnit} {before after : Running} {events : List Event}

theorem Aside.unanswered {α : Type} {result : Except Stop α} (aside : Aside before events after result) :
    (requests events).countP Event.isAnswer = 0 := by
  rw [countP_requests]
  refine List.countP_eq_zero.mpr fun event isEvent isAnswer => ?_
  unfold Event.isAnswer at isAnswer
  split at isAnswer
  · exact aside.unasked _ _ isEvent
  · cases isAnswer

/-- A unit hears one answer, or it stops. -/
theorem Hears.answers {result : Except Stop Turn} (hears : Hears setting unit before events after result) :
    (requests events).countP Event.isAnswer = result.toOption.toList.length := by
  cases hears with
  | unresolved resolving => exact (aside_of_resolve resolving).unanswered
  | unanswered resolving asking =>
    rw [requests_append, List.countP_append, (aside_of_resolve resolving).unanswered]
    cases asking <;> rfl
  | answered resolving asking =>
    rw [requests_append, List.countP_append, (aside_of_resolve resolving).unanswered]
    cases asking
    rfl

end Answers

/-! ### Tasks keep the course -/

/-- The answers that a task has to match before it goes on. -/
def Task.owed : Task → Nat
  | choose _ => 1
  | _ => 0

theorem Resumes.onCourse {before middle : Running} {steps : List Event} {answers : Nat}
    (resumes : Resumes before steps middle) (onCourse : before.chain.OnCourse answers) :
    middle.chain.OnCourse answers := by
  cases resumes with
  | stays _ => exact onCourse
  | goes matching => exact onCourse.toActing matching

/-- **The rules keep a chain on course**: each answer is matched once. -/
theorem TaskRun.onCourse {setting : Setting} {depth : Nat} {task : Task} {before after : Running}
    {events : List Event} {result : Except Stop Outcome}
    (run : TaskRun setting depth task before events after result) {answers : Nat}
    (onCourse : before.chain.OnCourse answers) :
    after.chain.OnCourse (answers + task.owed + (requests events).countP Event.isAnswer) := by
  induction run generalizing answers with
  | refused | unresolved | cyclic | finished => exact onCourse
  | unheard isLoaded free ready hearing =>
    have entered := (onCourse.toAwaiting _ ready).of_course hearing.aside.2
    have count : _ = 0 := hearing.answers
    simpa [count, Task.owed] using entered
  | heard isLoaded free ready hearing _ choosing =>
    have entered := (onCourse.toAwaiting _ ready).of_course hearing.aside.2
    have chosen := choosing entered
    have count : _ = 1 := hearing.answers
    simpa [count, Task.owed, Nat.add_assoc] using chosen
  | undecided waiting | unmatched waiting => simpa [Task.owed] using onCourse.toMatching waiting
  | @matched _ _ before _ found _ _ waiting _ _ acting =>
    have bound : (((before.moved .matching).bound found)).chain.OnCourse _ := onCourse.toMatching waiting
    simpa [Task.owed] using acting (bound.toActing rfl)
  | halted _ running | printed _ running | failed _ running | pipeFailed _ running =>
    have aside := aside_of_runCommand running
    simpa [aside.unanswered, Task.owed] using onCourse.of_course aside.course
  | piped _ running _ calling =>
    have aside := aside_of_runCommand running
    simpa [aside.unanswered, Task.owed] using calling (onCourse.of_course aside.course)
  | called _ calling => exact calling onCourse
  | stopped _ _ _ _ entering =>
    have ended := entering (onCourse.of_course (by rw [PromptUnit.chain_outset]))
    simpa [Task.owed] using ended
  | next _ _ _ _ resuming _ entering calling =>
    have ended := entering (onCourse.of_course (by rw [PromptUnit.chain_outset]))
    have resumed := resuming.onCourse (ended.of_course (by rw [PromptUnit.chain_returned]))
    simpa [resuming.requests_eq, Task.owed, Nat.add_assoc] using calling resumed

/-! ### Whole chains -/

section Invoke

variable (setting : Setting) (name user : String) (session : Option Session)

/-- The course of a chain before its last step. -/
theorem onCourse_runNamed {start : Session} {events : List Event} {after : Running}
    {result : Except Stop Outcome}
    (runs : (runNamed setting name start).Runs events (after, result)) :
    after.chain.OnCourse ((requests events).countP Event.isAnswer) := by
  rcases runs_runNamed runs with ⟨_, rfl, rfl, _⟩ | ⟨unit, _, run⟩
  · exact Chain.onCourse_new name
  · simpa [Task.owed] using run.onCourse (Chain.onCourse_new unit.name)

/-- The report of a chain whose last step is legal. -/
def endReport (ended : Running × Except Stop Outcome) (duration : Float) : Report :=
  let chain := (ended.1.moved .terminal).chain
  reportOf chain ended.1.session (endOutcome setting name ended.2) (endError chain ended.2) duration

/-- A chain that can end takes one more step, and is reported. -/
theorem conclude_eq {started : Float} {running : Running} {result : Except Stop Outcome}
    (unended : running.chain.state ≠ .terminal) :
    conclude setting name started running result = .say (running.chain.stepLine .terminal)
      (.time fun now =>
        let report := endReport setting name (running, result) (milliseconds started now)
        .say (endLine report) (.done (report, running.session))) := by
  unfold conclude Chain.step
  rw [if_neg unended.symm, if_pos (ChainState.mayGo_terminal unended)]
  rfl

variable {σ : Type} (host : Query.Host σ) (state : σ)

/-- **What a host makes of a chain**: what it makes of the unit, the last step, and the report. The report
tells the time between the start and the last step. -/
theorem perform_invoke :
    let query := runNamed setting name (startSession user session)
    let ended := (query.perform host state).1
    let lastStep := ended.1.chain.stepLine .terminal
    let took := milliseconds (host.clock state) (host.clock (host.say lastStep (query.perform host state).2))
    let performed := ((invoke setting name user session).perform host state).1
    performed = (endReport setting name ended took, ended.1.session) ∧
      (invoke setting name user session).trace host state
        = query.trace host state ++ [.said lastStep, .said (endLine performed.1)] := by
  intro query ended lastStep took performed
  have onCourse := onCourse_runNamed setting name (query.runs_trace host state)
  have concludes : conclude setting name (host.clock state) ended.1 ended.2 = _ :=
    conclude_eq setting name onCourse.state_ne_terminal
  have isPerformed : performed = (endReport setting name ended took, ended.1.session) := by
    show (Query.perform host (invoke ..) state).1 = _
    unfold invoke
    rw [Query.perform, Query.perform_bind]
    exact congrArg (fun ends => (Query.perform host ends _).1) concludes
  refine ⟨isPerformed, ?_⟩
  rw [isPerformed]
  unfold invoke
  rw [Query.trace, Query.trace_bind]
  exact congrArg (fun ends => query.trace host state ++ Query.trace host ends _) concludes

end Invoke

/-- **Every chain follows its states.** For every program, name, session and host, also one that breaks
off, fails or gives no answer:

* the states of the report start idle, end at the end and are not there before, and every step between two
  of them is legal;
* a step that is not legal never stops a chain: a general fault is only ever the one for which a name that
  is not loaded was refused, and the last step is taken;
* the chain waited for the model as often as it entered a unit, and matched as often as the model
  answered. -/
theorem invoke_follows_states (setting : Setting) (name user : String) (session : Option Session) {σ : Type}
    (host : Query.Host σ) (state : σ) :
    let query := invoke setting name user session
    let report := (query.perform host state).1.1
    let ended := ((runNamed setting name (startSession user session)).perform host state).1
    (∃ middle, report.states = .idle :: middle ++ [.terminal] ∧ .terminal ∉ middle) ∧
      report.states.IsChain (fun state next => state.mayGo next = true) ∧
      (∀ problem, ended.2 = .error (.fault (.general problem)) ↔
        setting.program.lookup name = none ∧ startFault setting.program name = .general problem) ∧
      (∃ chain line, ended.1.chain.step .terminal = .goes chain line) ∧
      report.states.count .awaitingModel = report.trail.length ∧
      report.states.count .matching = (query.trace host state).countP Event.isAnswer := by
  intro query report ended
  have runs := (runNamed setting name (startSession user session)).runs_trace host state
  have onCourse := onCourse_runNamed setting name runs
  obtain ⟨performed, traced⟩ := perform_invoke setting name user session host state
  have isReport : report = endReport setting name ended _ := congrArg Prod.fst performed
  have isStates : report.states = ended.1.chain.states ++ [.terminal] := by rw [isReport]; rfl
  have isTrail : report.trail = ended.1.chain.trail := by rw [isReport]; rfl
  have may := ChainState.mayGo_terminal onCourse.state_ne_terminal
  refine ⟨?_, ?_, ?_, ?_, ?_, ?_⟩
  · obtain ⟨middle, isMiddle⟩ := List.head?_eq_some_iff.mp onCourse.started
    refine ⟨middle, by rw [isStates, isMiddle], fun isThere => onCourse.unended ?_⟩
    rw [isMiddle]
    exact List.mem_cons_of_mem _ isThere
  · rw [isStates]
    refine List.isChain_append.mpr ⟨onCourse.steps, .singleton _, fun last isLast next isNext => ?_⟩
    rw [onCourse.last, Option.mem_some_iff] at isLast
    cases isNext
    exact isLast ▸ may
  · intro problem
    rcases runs_runNamed runs with ⟨missing, _, _, ends⟩ | ⟨unit, found, run⟩
    · rw [ends, missing]
      simp
    · rw [found]
      simp only [reduceCtorEq, false_and, iff_false]
      intro ends
      cases run.stops ends with
      | mishap found =>
        cases found with
        | broken isEvent breaks => exact Event.breaks?_ne_fault breaks
  · exact ⟨_, _, by rw [Chain.step, if_neg onCourse.state_ne_terminal.symm, if_pos may]⟩
  · rw [isStates, isTrail, List.count_append, onCourse.entered]
    rfl
  · rw [isStates, traced, List.count_append, onCourse.matched, countP_requests, List.countP_append]
    rfl

end PromptChain
