/-
**A unit that is entered again closes a cycle of the call graph.**

The units in flight call one another in turn (`Program.IsCallPath`), so when the one on top calls a unit in
flight, the part of the stack from that unit on is a circuit (`IsCallPath.closes`). The rules of `TaskRun`
keep the units in flight a call path, so a chain that is stopped for a cyclic invocation was at such a
stack (`TaskRun.reenters`). Depth never stops one: when it is used up, all units are in flight.

Main statement: `cyclicInvocation_closes_cycle`.
-/

import PromptChain.Proofs.StateMachine

namespace PromptChain

/-! ### Call paths -/

/-- Units in flight, each of which calls the next one. -/
structure Program.IsCallPath (program : Program) (graph : CallGraph) (stack : List String) : Prop
    extends program.IsCallStack stack where
  walk : (stack.map nameKey).IsChain graph.Calls

/-- A key is called by the unit on top of a stack, if there is one. -/
def CallGraph.CallsFrom (graph : CallGraph) (stack : List String) (key : String) : Prop :=
  ∀ last ∈ stack.getLast?, graph.Calls (nameKey last) key

/-- The part of a stack from a name on is a circuit. -/
def CallGraph.Closes (graph : CallGraph) (stack : List String) (name : String) : Prop :=
  ∃ outside loop, stack = outside ++ name :: loop ∧ graph.IsCircuit ((name :: loop).map nameKey)

namespace Program.IsCallPath

variable {program : Program} {graph : CallGraph} {stack : List String} {unit : PromptUnit}

theorem nil : program.IsCallPath graph [] := ⟨.nil, .nil⟩

/-- The walk goes on to a unit that is called from the top. -/
theorem walk_append (path : program.IsCallPath graph stack) (called : graph.CallsFrom stack unit.key) :
    (stack.map nameKey ++ [unit.key]).IsChain graph.Calls := by
  refine List.isChain_append.mpr ⟨path.walk, .singleton _, fun key isLast next isNext => ?_⟩
  rw [List.getLast?_map, Option.mem_def, Option.map_eq_some_iff] at isLast
  obtain ⟨last, isTop, rfl⟩ := isLast
  cases isNext
  exact called last isTop

theorem push (path : program.IsCallPath graph stack) (isLoaded : unit ∈ program.loaded)
    (free : unit.key ∉ stack.map nameKey) (called : graph.CallsFrom stack unit.key) :
    program.IsCallPath graph (stack ++ [unit.name]) where
  toIsCallStack := path.toIsCallStack.push isLoaded free
  walk := by
    rw [List.map_append]
    exact path.walk_append called

/-- **A unit in flight that is called from the top closes a circuit.** -/
theorem closes (path : program.IsCallPath graph stack) (tidy : program.Tidy)
    (isLoaded : unit ∈ program.loaded) (called : graph.CallsFrom stack unit.key)
    (inFlight : unit.key ∈ stack.map nameKey) : graph.Closes stack unit.name := by
  obtain ⟨name, isName, sameKey⟩ := List.mem_map.mp inFlight
  obtain ⟨other, isOther, rfl⟩ := path.loaded name isName
  -- No two loaded units have one key, so it is the unit itself.
  obtain rfl := tidy.eq_of_key isOther isLoaded sameKey
  obtain ⟨outside, loop, isStack⟩ := List.append_of_mem isName
  have distinct := path.distinct
  have walk := path.walk_append called
  rw [isStack, List.map_append] at distinct walk
  rw [List.append_assoc] at walk
  refine ⟨outside, loop, isStack, by simp, (List.nodup_append.mp distinct).2.1, ?_⟩
  exact (Cycle.chain_coe_cons _ _ _).mpr (List.isChain_append.mp walk).2.1

end Program.IsCallPath

/-! ### Tasks on call paths -/

/-- From a state with a stack on, nothing is asked or run any more. -/
def EndsAt (events : List Event) (stack : List String) : Prop :=
  ∃ early moment late, events = early ++ .passed moment :: late ∧ moment.chain.stack = stack ∧
    requests late = []

theorem EndsAt.extend {events : List Event} {stack : List String} (ends : EndsAt events stack)
    (first last : List Event) (quiet : requests last = []) : EndsAt (first ++ (events ++ last)) stack := by
  obtain ⟨early, moment, late, rfl, isStack, quietLate⟩ := ends
  exact ⟨first ++ early, moment, late ++ last, by simp, isStack, by simp [quietLate, quiet]⟩

/-- How a task stands to the units in flight: the unit to enter is called from the top, and the others are
tasks of the unit on top. -/
def Task.Follows (graph : CallGraph) (stack : List String) : Task → Prop
  | enter unit => graph.CallsFrom stack unit.key
  | choose unit | act unit _ | call unit _ _ => stack.getLast? = some unit.name

/-- What the unit on top calls is called from the top. -/
theorem Program.Linked.callsFrom {program : Program} {graph : CallGraph} (linked : program.Linked graph)
    {stack : List String} {caller target : PromptUnit} {name : String}
    (isTop : stack.getLast? = some caller.name) (isCall : program.HasCall caller name)
    (found : program.lookup name = some target) : graph.CallsFrom stack target.key := by
  intro last isLast
  rw [isTop, Option.mem_some_iff] at isLast
  rw [← isLast, linked.tidy.own found]
  exact linked.calls caller name isCall

/-- A stop for a cyclic invocation. -/
def Stop.cyclic (stack : List String) (name : String) : Stop := .fault (.cyclicInvocation stack name)

theorem Mishap.ne_cyclic {events : List Event} {stack : List String} {name : String} :
    ¬ Mishap events (.cyclic stack name) := by
  rintro (⟨_, breaks⟩ | _ | _)
  exact Event.breaks?_ne_fault breaks

section Tasks

variable {setting : Setting} {depth : Nat} {task : Task} {before after : Running} {events : List Event}
  {result : Except Stop Outcome}
  {program : Program} {graph : CallGraph} {stack : List String} {name : String}

/-- The end of a run that is stopped for a cyclic invocation: a call path that the name closes. -/
structure Reentry (program : Program) (graph : CallGraph) (events : List Event) (stack : List String)
    (name : String) : Prop where
  path : program.IsCallPath graph stack
  closes : graph.Closes stack name
  ends : EndsAt events stack

theorem Reentry.extend (reentry : Reentry program graph events stack name) (first last : List Event)
    (quiet : requests last = []) :
    Reentry program graph (first ++ (events ++ last)) stack name :=
  ⟨reentry.path, reentry.closes, reentry.ends.extend first last quiet⟩

theorem Reentry.of_suffix {more : List Event} (reentry : Reentry program graph events stack name)
    (isEnd : events <:+ more) :
    Reentry program graph more stack name := by
  obtain ⟨first, rfl⟩ := isEnd
  simpa using reentry.extend first [] rfl

theorem Reentry.framed (reentry : Reentry program graph events stack name) (target : PromptUnit)
    (before ended : Running) :
    Reentry program graph (target.framed before events ended) stack name := by
  unfold PromptUnit.framed
  split
  · exact reentry
  · exact reentry.extend [_] [_] rfl

/-- **A task that is stopped for a cyclic invocation was at a call path that the name closes.** -/
theorem TaskRun.reenters (linked : setting.program.Linked graph)
    (run : TaskRun setting depth task before events after result)
    (path : setting.program.IsCallPath graph before.chain.stack)
    (follows : task.Follows graph before.chain.stack)
    (enough : setting.program.loaded.length ≤ depth + before.chain.stack.length)
    (stops : result = .error (.cyclic stack name)) :
    Reentry setting.program graph events stack name := by
  induction run with
  | @refused depth unit before isLoaded reason =>
    cases stops
    have inFlight : unit.key ∈ before.chain.stack.map nameKey := by
      rcases reason with rfl | inFlight
      · exact path.mem_of_full (by omega) isLoaded
      · exact (Chain.inFlight_iff _ _).mp inFlight
    exact ⟨path, path.closes linked.tidy isLoaded follows inFlight, [], before, [], rfl, rfl, rfl⟩
  | unheard _ _ _ hearing =>
    cases stops
    exact absurd hearing.mishap Mishap.ne_cyclic
  | @heard depth unit before middle ended early late turn _ isLoaded free _ hearing _ choosing =>
    have isStack : (middle.told turn).chain.stack = before.chain.stack ++ [unit.name] := hearing.stack_eq
    rw [← Bool.not_eq_true, Chain.inFlight_iff] at free
    rw [isStack] at choosing
    have reentry := choosing (path.push isLoaded free follows) List.getLast?_concat
      (by rw [List.length_append, List.length_singleton]; omega) stops
    have inside := reentry.extend (before.entryEvents unit ++ (early ++ [.passed (middle.told turn)]))
      [.passed ended.left] rfl
    simpa using inside
  | undecided _ chosen =>
    cases stops
    rcases PromptUnit.choice_error chosen with ⟨_, _, wrong⟩ | ⟨_, wrong⟩ <;> cases wrong
  | unmatched | printed | failed | pipeFailed | finished | unresolved => cases stops
  | matched _ _ _ acting =>
    exact (acting path follows enough stops).of_suffix (List.suffix_append _ _)
  | halted _ running =>
    cases stops
    exact absurd (aside_of_runCommand running).mishap Mishap.ne_cyclic
  | piped _ running _ calling =>
    have isStack := (aside_of_runCommand running).stack_eq
    refine (calling (isStack ▸ path) (isStack ▸ follows) (isStack ▸ enough) stops).of_suffix ?_
    exact (List.suffix_append [_, _] _).trans (List.suffix_append _ _)
  | called _ calling => exact calling path follows enough stops
  | cyclic isCall found inFlight =>
    cases stops
    have isLoaded := mem_loaded_of_lookup found
    have called := linked.callsFrom follows isCall found
    have closes := path.closes linked.tidy isLoaded called ((Chain.inFlight_iff _ _).mp inFlight)
    exact ⟨path, closes, [], _, [], rfl, rfl, rfl⟩
  | @stopped _ _ target _ _ _ before ended _ _ _ isCall found _ _ entering =>
    cases stops
    rw [target.chain_outset] at entering
    have inside := entering path (linked.callsFrom follows isCall found) enough rfl
    exact (inside.framed target before ended).of_suffix (List.suffix_append [_, _] _)
  | @next _ _ target _ _ _ _ before _ _ _ _ _ _ _ _ isCall found _ entering resuming _ _ calling =>
    have isStack := entering.stack_eq
    rw [target.chain_outset, ← target.chain_returned before, ← resuming.stack_eq] at isStack
    rw [isStack] at calling
    refine (calling path follows enough stops).of_suffix ?_
    exact ((List.suffix_append _ _).trans (List.suffix_append _ _)).trans (List.suffix_append [_, _] _)

/-- **The circuit is one of the cycles of the graph**, up to rotation. -/
theorem Reentry.exists_cycle (linked : program.Linked graph)
    (reentry : Reentry program graph events stack name) :
    ∃ outside loop, stack = outside ++ name :: loop ∧ ∃ cycle ∈ graph.cycles, name :: loop ~r cycle := by
  obtain ⟨outside, loop, rfl, isCircuit⟩ := reentry.closes
  obtain ⟨listed, isListed, rotated⟩ := isCircuit.exists_mem_circuits
  refine ⟨outside, loop, rfl, listed.map graph.nameOf, List.mem_map_of_mem isListed, ?_⟩
  have renamed : ((name :: loop).map nameKey).map graph.nameOf = name :: loop := by
    rw [List.map_map]
    refine (List.map_congr_left fun other isOther => ?_).trans (List.map_id _)
    obtain ⟨unit, isLoaded, rfl⟩ := reentry.path.loaded other (List.mem_append_right _ isOther)
    exact linked.named unit isLoaded
  exact renamed ▸ rotated.map graph.nameOf

end Tasks

/-! ### Chains -/

theorem Stop.exists_cyclic {reason : Stop} (isCyclic : reason.outcome = .cyclicInvocation) :
    ∃ stack name, reason = .cyclic stack name := by
  cases reason with
  | fault fault =>
    cases fault with
    | cyclicInvocation stack name => exact ⟨stack, name, rfl⟩
    | _ => cases isCyclic
  | cancelled => cases isCyclic
  | crashed problem => cases isCyclic

theorem Stop.text_cyclic (stack : List String) (name : String) : (Stop.cyclic stack name).text
    = "Cyclic invocation: " ++ String.intercalate " -> " (stack ++ [name]) := by
  have someText : (Fault.cyclicInvocation stack name).text ≠ "" := by
    intro isEmpty
    exact absurd (String.append_eq_empty_iff.mp isEmpty).1 (by decide)
  rw [Stop.cyclic, Stop.text, if_neg someText]
  rfl

section Invoke

variable {setting : Setting} {graph : CallGraph} {name : String} {start : Session} {events : List Event}
  {ended : Running × Except Stop Outcome}

/-- **A chain that ends with a cyclic invocation has entered a unit again.** -/
theorem exists_reentry (linked : setting.program.Linked graph)
    (runs : (runNamed setting name start).Runs events ended)
    (isCyclic : endOutcome setting name ended.2 = .cyclicInvocation) :
    ∃ stack target, Reentry setting.program graph events stack target ∧
      ended.2 = .error (.cyclic stack target) := by
  obtain ⟨after, result⟩ := ended
  rcases runs_runNamed runs with ⟨missing, _, _, rfl⟩ | ⟨unit, found, run⟩
  · rw [endOutcome, missing] at isCyclic
    cases isCyclic
  · cases result with
    | ok outcome =>
      have ordinary := run.ordinary trivial rfl
      rw [endOutcome] at isCyclic
      rw [isCyclic] at ordinary
      cases ordinary
    | error reason =>
      rw [endOutcome, found] at isCyclic
      obtain ⟨stack, target, rfl⟩ := Stop.exists_cyclic isCyclic
      have enough : setting.program.loaded.length ≤ setting.program.units.length + 0 :=
        (List.length_map _).le
      have reentry := run.reenters linked .nil (by simp [Task.Follows, CallGraph.CallsFrom]) enough rfl
      exact ⟨stack, target, reentry, rfl⟩

end Invoke

/-- **Run-time cycles are cycles of the call graph.** A program that was loaded keeps a call graph, and for
every chain of it, whatever the model answers and the commands do:

* if the chain ends with a cyclic invocation, then at some moment, after which nothing is asked or run any
  more, the part of the units in flight from the one that is entered again to the top is one of the cycles
  of the graph, up to rotation; and the error names the units in flight and then that unit;
* if the graph is acyclic, no chain ends so. -/
theorem cyclicInvocation_closes_cycle {tree : Files.Tree} {here : Files.Place} {strict : Bool}
    {sources : List SourceInput} {log : List LogLine} (setting : Setting)
    (loaded : load tree here strict sources = (log, .ok setting.program)) :
    ∃ graph, setting.program.graph = some graph ∧
      ∀ (name user : String) (session : Option Session) {σ : Type} (host : Query.Host σ) (state : σ),
        let query := invoke setting name user session
        let report := (query.perform host state).1.1
        (report.outcome = .cyclicInvocation → ∃ early moment late outside target loop,
          query.trace host state = early ++ .passed moment :: late ∧
          requests late = [] ∧
          moment.chain.stack = outside ++ target :: loop ∧
          (∃ cycle ∈ graph.cycles, target :: loop ~r cycle) ∧
          report.error = some ("Cyclic invocation: "
            ++ String.intercalate " -> " (moment.chain.stack ++ [target]))) ∧
        (graph.isAcyclic = true → report.outcome ≠ .cyclicInvocation) := by
  obtain ⟨graph, linked⟩ := linked_of_load loaded
  refine ⟨graph, linked.kept, fun name user session σ host state => ?_⟩
  intro query report
  let ended := ((runNamed setting name (startSession user session)).perform host state).1
  obtain ⟨performed, traced⟩ := perform_invoke setting name user session host state
  have runs := (runNamed setting name (startSession user session)).runs_trace host state
  have isOutcome : report.outcome = endOutcome setting name ended.2 :=
    congrArg (fun performed => performed.1.outcome) performed
  constructor
  · intro isCyclic
    rw [isOutcome] at isCyclic
    obtain ⟨stack, target, reentry, stops⟩ := exists_reentry linked runs isCyclic
    obtain ⟨outside, loop, isStack, isCycle⟩ := reentry.exists_cycle linked
    have isError : report.error = some (Stop.cyclic stack target).text := by
      have reported : report.error = endError (ended.1.moved .terminal).chain ended.2 :=
        congrArg (fun performed => performed.1.error) performed
      rw [reported, stops, endError]
    have ends := reentry.ends.extend [] [.said (ended.1.chain.stepLine .terminal),
      .said (endLine report)] rfl
    rw [List.nil_append, ← traced] at ends
    obtain ⟨early, moment, late, isTrace, rfl, quiet⟩ := ends
    exact ⟨early, moment, late, outside, target, loop, isTrace, quiet, isStack, isCycle,
      isError.trans (congrArg some (Stop.text_cyclic _ _))⟩
  · intro acyclic isCyclic
    rw [isOutcome] at isCyclic
    obtain ⟨stack, target, reentry, _⟩ := exists_reentry linked runs isCyclic
    obtain ⟨_, _, _, isCircuit⟩ := reentry.closes
    rw [isCircuit.isAcyclic] at acyclic
    cases acyclic

/-- The report of a chain, by a host that answers every request with nothing. -/
def silentReport (program : Program) (name : String) : Report :=
  ((invoke ⟨program, true, 0⟩ name "" none).perform silentHost ()).1.1

/-- Two units that call each other: the chain of one ends when it is called again. -/
theorem cycleSource_closes_cycle :
    ∃ log program graph, load {} [] false [.text Program.cycleSource] = (log, .ok program) ∧
      program.graph = some graph ∧ (silentReport program "pong").outcome = .cyclicInvocation ∧
      ∃ outside target loop, (∃ cycle ∈ graph.cycles, target :: loop ~r cycle) ∧
        (silentReport program "pong").error = some ("Cyclic invocation: "
          ++ String.intercalate " -> " (outside ++ target :: loop ++ [target])) := by
  have evaluated : (load {} [] false [.text Program.cycleSource]).2.toOption.map (fun program =>
      (silentReport program "pong").outcome) = some .cyclicInvocation := by
    decide +kernel
  obtain ⟨log, program, loaded, isCyclic⟩ := exists_of_load_map evaluated
  obtain ⟨graph, isGraph, chains⟩ := cyclicInvocation_closes_cycle ⟨program, true, 0⟩ loaded
  obtain ⟨_, _, _, outside, target, loop, _, _, isStack, isCycle, isError⟩ :=
    (chains "pong" "" none silentHost ()).1 isCyclic
  exact ⟨log, program, graph, loaded, isGraph, isCyclic, outside, target, loop, isCycle, isStack ▸ isError⟩

end PromptChain
