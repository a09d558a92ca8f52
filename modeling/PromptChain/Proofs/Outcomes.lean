/-
**What the outcome of a chain says of it.**

* `TaskRun.broken`: what breaks off, or a model that is not available, stops the run for that reason.
* `TaskRun.fails`: so does an answer on which the arms of the unit that asked fail.
* `StopReason.cause`: in a linked program no call misses its unit, so that only the causes in `Cause` are
  left.
* `TaskRun.ending`: a chain that has started ends with an ordinary outcome, or for one of those causes.

Main statement: `outcome_tells_cause`, for hosts whose model answers or says that it is not available.
`tornSource_fails_without_command` is why an answer can be the cause of an internal error.
-/

import PromptChain.Proofs.StateMachine

namespace PromptChain

variable {setting : Setting} {unit : PromptUnit} {before after : Running} {events : List Event}
  {depth : Nat} {early late : List Event} {heard : Heard} {reason : Stop}
  {result : Except Stop Outcome}

/-! ### What ends a run -/

/-- Why a run ends once an event has happened: it breaks off, or its model is not available. -/
def Event.ends? : Event → Option Stop
  | .asked _ (some (.unavailable problem)) => some (.fault (.modelUnavailable problem))
  | event => event.breaks?

theorem Aside.ended {α : Type} {result : Except Stop α} (aside : Aside before events after result) :
    ∀ event ∈ events, ∀ reason, event.ends? = some reason → result = .error reason := by
  intro event isEvent reason ends
  cases event with
  | asked request reply => exact absurd isEvent (aside.unasked request reply)
  | _ => exact aside.broken _ isEvent reason ends

theorem Asks.broken {direction : String} {result : Except Stop String}
    (asks : Asks setting unit direction before events result) :
    ∀ event ∈ requests events, ∀ reason, event.ends? = some reason → result = .error reason := by
  cases asks with
  | noModel => simp
  | _ => simp [requests, Event.isRequest, Event.ends?, Event.breaks?]

theorem Hears.broken {result : Except Stop Turn} (hears : Hears setting unit before events after result) :
    ∀ event ∈ requests events, ∀ reason, event.ends? = some reason → result = .error reason := by
  intro event isEvent reason ends
  cases hears with
  | unresolved resolving =>
    cases (aside_of_resolve resolving).ended event (mem_requests.mp isEvent).1 reason ends
    rfl
  | unanswered resolving asking | answered resolving asking =>
    rw [requests_append] at isEvent
    rcases List.mem_append.mp isEvent with isEarly | isLate
    · cases (aside_of_resolve resolving).ended event (mem_requests.mp isEarly).1 reason ends
    · -- An answer breaks nothing off, so that this case is left only without one.
      cases asking.broken event isLate reason ends
      all_goals rfl

/-- **What breaks off, or a model that is not available, stops a run**, for that reason. -/
theorem TaskRun.broken {task : Task} (run : TaskRun setting depth task before events after result) :
    ∀ event ∈ requests events, ∀ reason, event.ends? = some reason → result = .error reason := by
  intro event isEvent reason ends
  induction run with
  | refused | undecided | unmatched | unresolved | cyclic | finished => simp at isEvent
  | unheard _ _ _ hearing =>
    cases hearing.broken event (by simpa using isEvent) reason ends
    rfl
  | @heard _ _ _ _ _ early late _ _ _ _ _ hearing _ choosing =>
    have isPart : event ∈ requests early ∨ event ∈ requests late := by simpa using isEvent
    rcases isPart with isHearing | isChoosing
    · cases hearing.broken event isHearing reason ends
    · exact choosing isChoosing
  | matched _ _ _ acting => exact acting (by simpa using isEvent)
  | halted _ running =>
    cases (aside_of_runCommand running).ended event (mem_requests.mp isEvent).1 reason ends
    rfl
  | printed _ running | failed _ running | pipeFailed _ running =>
    cases (aside_of_runCommand running).ended event (mem_requests.mp (by simpa using isEvent)).1 reason
      ends
  | @piped _ _ _ _ _ _ _ _ _ early late _ _ _ running _ calling =>
    have isPart : event ∈ requests early ∨ event ∈ requests late := by simpa using isEvent
    rcases isPart with isRunning | isCalling
    · cases (aside_of_runCommand running).ended event (mem_requests.mp isRunning).1 reason ends
    · exact calling isCalling
  | called _ calling => exact calling isEvent
  | stopped _ _ _ _ entering => exact entering (by simpa using isEvent)
  | @next _ _ _ _ _ _ _ _ _ _ _ early _ late _ _ _ _ _ _ resuming _ entering calling =>
    have isPart : event ∈ requests early ∨ event ∈ requests late := by
      simpa [resuming.requests_eq] using isEvent
    rcases isPart with isEntering | isCalling
    · cases entering isEntering
    · exact calling isCalling

/-! ### Answers on which arms fail -/

/-- An answer is heard in a run, from whatever state it starts. -/
def HeardIn (events : List Event) (heard : Heard) : Prop := ∃ last, heard ∈ heardFrom last events

theorem HeardIn.of_append (isHeard : HeardIn (early ++ late) heard) :
    HeardIn early heard ∨ HeardIn late heard := by
  obtain ⟨last, isThere⟩ := isHeard
  rw [heardFrom_append] at isThere
  exact (List.mem_append.mp isThere).imp (⟨last, ·⟩) (⟨_, ·⟩)

theorem not_heardIn_of_quiet (quiet : requests events = []) : ¬ HeardIn events heard := by
  rintro ⟨last, isThere⟩
  have unasked : ∀ request reply, Event.asked request reply ∉ events := by
    intro request reply isEvent
    have isRequest := mem_requests.mpr ⟨isEvent, rfl⟩
    rw [quiet] at isRequest
    cases isRequest
  rw [heardFrom_of_unasked unasked] at isThere
  cases isThere

theorem HeardIn.of_quiet_append (quiet : requests early = []) (isHeard : HeardIn (early ++ late) heard) :
    HeardIn late heard :=
  isHeard.of_append.resolve_left (not_heardIn_of_quiet quiet)

theorem HeardIn.of_quiet_cons {event : Event} (quiet : event.isRequest = false)
    (isHeard : HeardIn (event :: events) heard) : HeardIn events heard := by
  have isPart : HeardIn ([event] ++ events) heard := isHeard
  exact isPart.of_quiet_append (by simp [requests, quiet])

theorem HeardIn.of_append_quiet (quiet : requests late = []) (isHeard : HeardIn (early ++ late) heard) :
    HeardIn early heard :=
  isHeard.of_append.resolve_right (not_heardIn_of_quiet quiet)

theorem HeardIn.of_framed {target : PromptUnit} {ended : Running}
    (isHeard : HeardIn (target.framed before events ended) heard) : HeardIn events heard := by
  unfold PromptUnit.framed at isHeard
  split at isHeard
  · exact isHeard
  · exact (isHeard.of_append_quiet rfl).of_quiet_cons rfl

theorem Aside.not_heardIn {α : Type} {result : Except Stop α} (aside : Aside before events after result) :
    ¬ HeardIn events heard := by
  rintro ⟨last, isThere⟩
  rw [aside.heardFrom_eq] at isThere
  cases isThere

theorem Hears.not_heardIn (hears : Hears setting unit before events after (.error reason)) :
    ¬ HeardIn events heard := by
  intro isHeard
  cases hears with
  | unresolved resolving => exact (aside_of_resolve resolving).not_heardIn isHeard
  | unanswered resolving asking =>
    rcases isHeard.of_append with isEarly | ⟨last, isLate⟩
    · exact (aside_of_resolve resolving).not_heardIn isEarly
    · cases asking <;> cases isLate

/-- The only answer that a unit hears is that of its turn. -/
theorem Hears.of_heardIn {turn : Turn} (hears : Hears setting unit before events after (.ok turn))
    (isHeard : HeardIn events heard) : heard.moment = after ∧
      heard.request.unit = unit.name ∧ turn = ⟨heard.request.direction, heard.answer, some unit.name⟩ := by
  obtain ⟨last, isThere⟩ := isHeard
  obtain ⟨only, isOnly, facts⟩ := hears.heardFrom_eq last
  rw [isOnly, List.mem_singleton] at isThere
  exact isThere ▸ facts

/-- A unit that cannot choose an arm stops for that reason. -/
theorem TaskRun.of_choice_error
    (run : TaskRun setting depth (.choose unit) before events after result)
    (chosen : unit.choice before.session = .error reason) : result = .error reason := by
  cases run with
  | undecided _ same =>
    rw [same] at chosen
    rw [Except.error.inj chosen]
  | unmatched _ other => rw [other] at chosen; cases chosen
  | matched _ other _ => rw [other] at chosen; cases chosen

/-- **An answer on which arms fail stops a run.** -/
theorem TaskRun.fails {task : Task} (run : TaskRun setting depth task before events after result)
    (tidy : setting.program.Tidy) (isHeard : HeardIn events heard) {problem : Crash}
    (fails : setting.program.FailsOn heard problem) : result = .error (.crashed problem) := by
  induction run with
  | refused | undecided | unmatched | unresolved | cyclic | finished =>
    exact absurd isHeard (not_heardIn_of_quiet rfl)
  | unheard _ _ _ hearing =>
    have isHearing := (isHeard.of_quiet_append rfl).of_append_quiet rfl
    exact absurd isHearing hearing.not_heardIn
  | @heard _ unit _ middle _ _ _ turn _ isLoaded _ _ hearing choosing fails_of_choosing =>
    rcases (isHeard.of_quiet_append rfl).of_append with isHearing | isLater
    · -- The unit that asked is the one that chooses.
      obtain ⟨rfl, isAsker, rfl⟩ := hearing.of_heardIn isHearing
      obtain ⟨other, isOther, same, chosen⟩ := fails
      obtain rfl := tidy.eq_of_key isOther isLoaded (congrArg nameKey (same.trans isAsker))
      exact choosing.of_choice_error chosen
    · exact fails_of_choosing ((isLater.of_quiet_cons rfl).of_append_quiet rfl)
  | matched _ _ _ acting => exact acting (isHeard.of_quiet_append rfl)
  | halted _ running | pipeFailed _ running => exact absurd isHeard (aside_of_runCommand running).not_heardIn
  | printed _ running | failed _ running =>
    exact absurd (isHeard.of_append_quiet rfl) (aside_of_runCommand running).not_heardIn
  | piped _ running _ calling =>
    have isLater := isHeard.of_append.resolve_left (aside_of_runCommand running).not_heardIn
    exact calling ((isLater.of_quiet_cons rfl).of_quiet_cons rfl)
  | called _ calling => exact calling isHeard
  | stopped _ _ _ _ entering =>
    exact entering ((isHeard.of_quiet_cons rfl).of_quiet_cons rfl).of_framed
  | next _ _ _ _ resuming _ entering calling =>
    rcases ((isHeard.of_quiet_cons rfl).of_quiet_cons rfl).of_append with isInside | isLater
    · cases entering isInside.of_framed
    · exact calling (isLater.of_quiet_append resuming.requests_eq)

/-! ### Causes -/

section Hosts

variable {σ α : Type}

/-- The model answers, or gives notice that it does not. -/
def Query.Host.ModelReplies (host : Query.Host σ) : Prop :=
  ∀ request state, ∃ reply, (host.ask request state).1 = some reply ∧ ∀ problem, reply ≠ .crashed problem

/-- Only commands break off. -/
def CommandsBreak (events : List Event) : Prop :=
  ∀ event ∈ events, ∀ reason, event.breaks? = some reason →
    (∃ request, event = .ran request .cancelled ∧ reason = .cancelled) ∨
      ∃ request problem, event = .ran request (.crashed problem) ∧ reason = .crashed problem

/-- With such a model, only commands break off. -/
theorem Query.Host.ModelReplies.commandsBreak {host : Query.Host σ} (replies : host.ModelReplies)
    (query : Query α) (state : σ) : CommandsBreak (query.trace host state) := by
  intro event isEvent reason breaks
  induction query generalizing state with
  | done value => cases isEvent
  | pass running rest ih =>
    rcases List.mem_cons.mp isEvent with rfl | isLater
    · cases breaks
    · exact ih state isLater
  | say line rest ih =>
    rcases List.mem_cons.mp isEvent with rfl | isLater
    · cases breaks
    · exact ih _ isLater
  | time next ih => exact ih _ _ isEvent
  | ask request next ih =>
    rcases List.mem_cons.mp isEvent with rfl | isLater
    · obtain ⟨reply, isReply, noCrash⟩ := replies request state
      rw [isReply] at breaks
      cases reply with
      | crashed problem => exact absurd rfl (noCrash problem)
      | _ => cases breaks
    · exact ih _ _ isLater
  | run request next ih =>
    rcases List.mem_cons.mp isEvent with rfl | isLater
    · cases reply : (host.run request state).1 with
      | finished result =>
        rw [reply] at breaks
        cases breaks
      | cancelled =>
        rw [reply] at breaks
        cases breaks
        exact Or.inl ⟨request, rfl, rfl⟩
      | crashed problem =>
        rw [reply] at breaks
        cases breaks
        exact Or.inr ⟨request, problem, rfl, rfl⟩
    · exact ih _ _ isLater

end Hosts

/-- Why a chain stops that has started, when only commands break off. -/
inductive Cause (program : Program) (events : List Event) : Stop → Prop
  | cancelled {request : CommandRequest} (ran : Event.ran request .cancelled ∈ events) :
    Cause program events .cancelled
  | crashed {request : CommandRequest} {problem : Crash}
    (ran : Event.ran request (.crashed problem) ∈ events) : Cause program events (.crashed problem)
  | torn {heard : Heard} {problem : Crash} (isHeard : heard ∈ heardFrom none events)
    (fails : program.FailsOn heard problem) : Cause program events (.crashed problem)
  | fault {fault : Fault} (kind : fault.outcome ∈ [Outcome.unresolvedVariable, .commandFailed,
      .modelUnavailable, .cyclicInvocation]) : Cause program events (.fault fault)

/-- **In a linked program, every call finds its unit**, so that only these causes are left. -/
theorem StopReason.cause {graph : CallGraph} (linked : setting.program.Linked graph)
    (commands : CommandsBreak events) (stops : StopReason setting events reason) :
    Cause setting.program events reason := by
  cases stops with
  | mishap found =>
    cases found with
    | broken isEvent breaks =>
      rcases commands _ isEvent _ breaks with ⟨request, rfl, rfl⟩ | ⟨request, problem, rfl, rfl⟩
      · exact .cancelled isEvent
      · exact .crashed isEvent
    | unbound => exact .fault (by simp [Fault.outcome])
    | unanswered => exact .fault (by simp [Fault.outcome])
  | torn isHeard fails => exact .torn isHeard fails
  | failed => exact .fault (by simp [Fault.outcome])
  | cyclic => exact .fault (by simp [Fault.outcome])
  | unresolved isCall missing =>
    obtain ⟨target, found⟩ := linked.found _ _ isCall
    rw [missing] at found
    cases found

/-! ### Outcomes of chains -/

section Started

variable {graph : CallGraph} {name : String} {depth : Nat} {result : Except Stop Outcome}
  (run : TaskRun setting depth (.enter unit) before events after result)
  (linked : setting.program.Linked graph) (commands : CommandsBreak events)
  (found : setting.program.lookup name = some unit)

include run linked commands found

/-- A chain that has started ends in the ordinary way, or for a cause that decides its outcome. -/
theorem TaskRun.ending :
    (∃ outcome, result = .ok outcome ∧ outcome.Ordinary ∧ endOutcome setting name result = outcome) ∨
      ∃ reason, result = .error reason ∧ Cause setting.program events reason ∧
        endOutcome setting name result = reason.outcome := by
  cases result with
  | ok outcome => exact Or.inl ⟨outcome, rfl, run.ordinary trivial rfl, rfl⟩
  | error reason =>
    refine Or.inr ⟨reason, rfl, (run.stops rfl).cause linked commands, ?_⟩
    rw [endOutcome, found]
    rfl

/-- A chain that has started has loaded. -/
theorem TaskRun.ne_loadError :
    endOutcome setting name result ≠ .loadError ∧
      ∀ kind problem location, result ≠ .error (.fault (.source kind problem location)) := by
  rcases run.ending linked commands found with ⟨outcome, rfl, ordinary, isEnd⟩ | ⟨reason, rfl, cause, isEnd⟩
  · rw [isEnd]
    refine ⟨?_, by simp⟩
    rintro rfl
    cases ordinary
  · rw [isEnd]
    constructor
    · intro isLoad
      cases cause with
      | fault kind => rw [Stop.outcome] at isLoad; simp [isLoad] at kind
      | _ => cases isLoad
    · intro kind problem location isSource
      cases isSource
      cases cause with
      | fault known => simp [Fault.outcome] at known

/-- **A chain is cancelled exactly when a command was.** -/
theorem TaskRun.cancelled_iff :
    endOutcome setting name result = .cancelled ↔ ∃ request, .ran request .cancelled ∈ events := by
  constructor
  · intro isCancelled
    rcases run.ending linked commands found with ⟨outcome, _, ordinary, isEnd⟩ | ⟨reason, _, cause, isEnd⟩
    · rw [isEnd] at isCancelled
      rw [isCancelled] at ordinary
      cases ordinary
    · rw [isEnd] at isCancelled
      cases cause with
      | cancelled ran => exact ⟨_, ran⟩
      | crashed _ | torn _ _ => cases isCancelled
      | fault kind => rw [Stop.outcome] at isCancelled; simp [isCancelled] at kind
  · rintro ⟨request, ran⟩
    rw [run.broken _ (mem_requests.mpr ⟨ran, rfl⟩) .cancelled rfl, endOutcome, found]
    rfl

/-- **A chain ends with an internal error exactly when a command or an arm crashed.** -/
theorem TaskRun.internalError_iff :
    endOutcome setting name result = .internalError ↔
      (∃ request problem, .ran request (.crashed problem) ∈ events) ∨
        ∃ heard ∈ heardFrom none events, ∃ problem, setting.program.FailsOn heard problem := by
  constructor
  · intro isCrash
    rcases run.ending linked commands found with ⟨outcome, _, ordinary, isEnd⟩ | ⟨reason, _, cause, isEnd⟩
    · rw [isEnd] at isCrash
      rw [isCrash] at ordinary
      cases ordinary
    · rw [isEnd] at isCrash
      cases cause with
      | cancelled _ => cases isCrash
      | crashed ran => exact Or.inl ⟨_, _, ran⟩
      | torn isHeard fails => exact Or.inr ⟨_, isHeard, _, fails⟩
      | fault kind => rw [Stop.outcome] at isCrash; simp [isCrash] at kind
  · rintro (⟨request, problem, ran⟩ | ⟨heard, isHeard, problem, fails⟩)
    · rw [run.broken _ (mem_requests.mpr ⟨ran, rfl⟩) (.crashed problem) rfl, endOutcome, found]
      rfl
    · rw [run.fails linked.tidy ⟨none, isHeard⟩ fails, endOutcome, found]
      rfl

end Started

/-- **What ends a run decides the outcome of its chain.** -/
theorem outcome_of_ends {name user : String} {session : Option Session} {σ : Type} {host : Query.Host σ}
    {state : σ} {event : Event} (isEvent : event ∈ (invoke setting name user session).trace host state)
    (ends : event.ends? = some reason) :
    ((invoke setting name user session).perform host state).1.1.outcome = reason.outcome := by
  obtain ⟨performed, traced⟩ := perform_invoke setting name user session host state
  have isRequest : event.isRequest = true := by
    cases event with
    | asked _ _ | ran _ _ => rfl
    | _ => cases ends
  rw [traced] at isEvent
  have isInner := (List.mem_append.mp isEvent).resolve_right fun isSaid => by
    rcases List.mem_pair.mp isSaid with rfl | rfl <;> cases isRequest
  rw [performed]
  show endOutcome setting name _ = _
  rcases runs_runNamed ((runNamed setting name (startSession user session)).runs_trace host state)
    with ⟨_, noEvents, _⟩ | ⟨unit, found, run⟩
  · rw [noEvents] at isInner
    cases isInner
  · rw [run.broken _ (mem_requests.mpr ⟨isInner, isRequest⟩) reason ends, endOutcome, found]
    rfl

theorem Program.Tidy.lookup_eq_none_iff {program : Program} (tidy : program.Tidy) {name : String} :
    program.lookup name = none ↔ ∀ unit ∈ program.loaded, unit.key ≠ nameKey name := by
  constructor
  · intro missing unit isLoaded same
    rw [Program.lookup, ← same, tidy.mem_loaded.mp isLoaded] at missing
    cases missing
  · intro others
    cases found : program.lookup name with
    | none => rfl
    | some unit => exact absurd (tidy.own found) (others unit (tidy.mem_loaded_of_lookup found))

/-- **The outcome tells the cause.** In a program that was loaded, with a model that answers or gives notice
that it does not, for every chain and whatever the commands do:

* the chain fails to load exactly when no loaded unit has its name, and then nothing is asked or run;
* it is cancelled exactly when a command was;
* it ends with an internal error exactly when a command crashed or, after an answer, a unit failed to match
  the value of its match variable against its arms;
* every call of a loaded unit finds a unit, and no chain that has started ends with the fault of a source,
  such as a reference that is not resolved. -/
theorem outcome_tells_cause {tree : Files.Tree} {here : Files.Place} {strict : Bool}
    {sources : List SourceInput} {log : List LogLine} (setting : Setting)
    (loaded : load tree here strict sources = (log, .ok setting.program)) (name user : String)
    (session : Option Session) {σ : Type} (host : Query.Host σ) (replies : host.ModelReplies) (state : σ) :
    let query := invoke setting name user session
    let report := (query.perform host state).1.1
    let events := query.trace host state
    let ended := ((runNamed setting name (startSession user session)).perform host state).1
    (report.outcome = .loadError ↔ ∀ unit ∈ setting.program.loaded, unit.key ≠ nameKey name) ∧
      (report.outcome = .loadError → requests events = []) ∧
      (report.outcome = .cancelled ↔ ∃ request, .ran request .cancelled ∈ events) ∧
      (report.outcome = .internalError ↔ (∃ request problem, .ran request (.crashed problem) ∈ events) ∨
        ∃ heard ∈ heardFrom none events, ∃ problem, setting.program.FailsOn heard problem) ∧
      (∀ caller target, setting.program.HasCall caller target →
        (setting.program.lookup target).isSome = true) ∧
      ((setting.program.lookup name).isSome = true → ∀ kind problem location,
        ended.2 ≠ .error (.fault (.source kind problem location))) := by
  intro query report events ended
  obtain ⟨graph, linked⟩ := linked_of_load loaded
  obtain ⟨performed, traced⟩ := perform_invoke setting name user session host state
  have runs := (runNamed setting name (startSession user session)).runs_trace host state
  let inner := (runNamed setting name (startSession user session)).trace host state
  have isOutcome : report.outcome = endOutcome setting name ended.2 :=
    congrArg (fun performed => performed.1.outcome) performed
  obtain ⟨first, last, isEvents⟩ : ∃ first last, events = inner ++ [.said first, .said last] := ⟨_, _, traced⟩
  have isRan : ∀ request reply, Event.ran request reply ∈ events ↔ Event.ran request reply ∈ inner := by
    intro request reply
    rw [isEvents]
    simp
  have isHeard : heardFrom none events = heardFrom none inner := by
    rw [isEvents, heardFrom_append]
    exact List.append_nil _
  have finds : ∀ caller target, setting.program.HasCall caller target →
      (setting.program.lookup target).isSome = true := by
    intro caller target isCall
    obtain ⟨unit, found⟩ := linked.found caller target isCall
    rw [found]
    rfl
  simp only [isOutcome, isRan, isHeard, ← linked.tidy.lookup_eq_none_iff]
  rcases runs_runNamed runs with ⟨missing, noEvents, _, isEnd⟩ | ⟨unit, found, run⟩
  · have noInner : inner = [] := noEvents
    have isLoadError : endOutcome setting name ended.2 = .loadError := by
      rw [isEnd, endOutcome, missing]
      rfl
    have quiet : requests events = [] := by
      rw [isEvents, noInner]
      rfl
    rw [isLoadError, missing, noInner]
    exact ⟨by simp, fun _ => quiet, by simp, by simp [heardFrom], finds, by simp⟩
  · have commands := replies.commandsBreak (runNamed setting name (startSession user session)) state
    obtain ⟨hasLoaded, noSource⟩ := run.ne_loadError linked commands found
    refine ⟨?_, fun isLoad => absurd isLoad hasLoaded, run.cancelled_iff linked commands found,
      run.internalError_iff linked commands found, finds, fun _ => noSource⟩
    rw [found]
    exact ⟨fun isLoad => absurd isLoad hasLoaded, fun missing => by cases missing⟩

/-! ### An answer that crashes an arm -/

/-- A unit with a pattern whose inner group can be torn. -/
def tornSource : String :=
  "a\ndirection: d\n\x7b match $AI \x7b /((x)|y)*+/ => `l` \x7d \x7d\n"

/-- A host whose model says the same to everything, and whose commands print nothing. -/
def parrotHost (text : String) : Query.Host Unit where
  say _ state := state
  clock _ := 0.0
  ask _ state := (some (.answer text), state)
  run _ state := (.finished {}, state)

theorem modelReplies_parrotHost (text : String) : (parrotHost text).ModelReplies :=
  fun _ _ => ⟨.answer text, rfl, by simp⟩

/-- The chain of the unit when the model says that both branches of the group match. -/
def tornQuery (program : Program) : Query (Report × Session) := invoke ⟨program, true, 0⟩ "a" "" none

/-- Whether a command was run. -/
def Event.isCommand : Event → Bool
  | ran _ _ => true
  | _ => false

/-- The source loads, and its chain ends with an internal error before any command. -/
theorem exists_tornProgram :
    ∃ log program, load {} [] false [.text tornSource] = (log, .ok program) ∧
      ((tornQuery program).perform (parrotHost "xyy") ()).1.1.outcome = .internalError ∧
      ∀ request reply, .ran request reply ∉ (tornQuery program).trace (parrotHost "xyy") () := by
  have evaluated : (load {} [] false [.text tornSource]).2.toOption.map (fun program =>
      (((tornQuery program).perform (parrotHost "xyy") ()).1.1.outcome,
        ((tornQuery program).trace (parrotHost "xyy") ()).any Event.isCommand))
      = some (.internalError, false) := by
    decide +kernel
  obtain ⟨log, program, loaded, isPair⟩ := exists_of_load_map evaluated
  obtain ⟨isCrash, noCommand⟩ := Prod.mk.inj isPair
  refine ⟨log, program, loaded, isCrash, fun request reply ran => ?_⟩
  exact absurd rfl (List.any_eq_false.mp noCommand _ ran)

/-- **An internal error without any command**: the model answers, and the pattern of the unit crashes on the
answer. -/
theorem tornSource_fails_without_command :
    ∃ log program, load {} [] false [.text tornSource] = (log, .ok program) ∧
      (parrotHost "xyy").ModelReplies ∧
      ((tornQuery program).perform (parrotHost "xyy") ()).1.1.outcome = .internalError ∧
      ¬ ∃ request problem,
        .ran request (.crashed problem) ∈ (tornQuery program).trace (parrotHost "xyy") () := by
  obtain ⟨log, program, loaded, isCrash, noCommand⟩ := exists_tornProgram
  refine ⟨log, program, loaded, modelReplies_parrotHost _, isCrash, ?_⟩
  rintro ⟨request, problem, ran⟩
  exact noCommand request _ ran

/-- The cause of that error is the answer. -/
theorem tornSource_tells_cause :
    ∃ log program, load {} [] false [.text tornSource] = (log, .ok program) ∧
      (parrotHost "xyy").ModelReplies ∧
      ((tornQuery program).perform (parrotHost "xyy") ()).1.1.outcome = .internalError ∧
      ∃ heard ∈ heardFrom none ((tornQuery program).trace (parrotHost "xyy") ()),
        ∃ problem, program.FailsOn heard problem := by
  obtain ⟨log, program, loaded, isCrash, noCommand⟩ := exists_tornProgram
  have replies := modelReplies_parrotHost "xyy"
  obtain ⟨_, _, _, internal, _⟩ :=
    outcome_tells_cause ⟨program, true, 0⟩ loaded "a" "" none (parrotHost "xyy") replies ()
  refine ⟨log, program, loaded, replies, isCrash, (internal.mp isCrash).resolve_left ?_⟩
  rintro ⟨request, problem, ran⟩
  exact noCommand request _ ran

end PromptChain
