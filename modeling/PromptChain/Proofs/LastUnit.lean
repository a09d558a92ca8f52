/-
**The last unit that is entered decides the outcome.**

`Decides` says so of a run that is not stopped: there is a state in which the last unit of the trail matches,
and the outcome and all commands from then on follow from its arms and that state alone
(`PromptUnit.Settles`). Calls have at least one target, so that every call hands the outcome on.

`TaskRun.decided`: **a task that is not stopped is decided so**, by induction over the rules.

Main statement: `last_unit_decides_outcome`.
-/

import PromptChain.Proofs.Journeys
import PromptChain.Proofs.Outcomes

namespace PromptChain

/-! ### What a unit settles -/

/-- The commands that are run, with their replies. -/
def commandsIn (events : List Event) : List (CommandRequest × CommandReply) :=
  events.filterMap fun event => match event with
    | .ran request reply => some (request, reply)
    | _ => none

@[simp]
theorem commandsIn_append (early late : List Event) :
    commandsIn (early ++ late) = commandsIn early ++ commandsIn late := List.filterMap_append

/-- The commands that came back with a result, in order. -/
def finishedIn (events : List Event) : List (CommandRequest × CommandResult) :=
  (commandsIn events).filterMap fun entry => match entry.2 with
    | .finished result => some (entry.1, result)
    | _ => none

/-- What a unit makes of its subject without calling others: the commands that it runs, and the outcome. No
arm matches, or the first that does runs a command. -/
inductive PromptUnit.Settles (unit : PromptUnit) (bindings : Bindings) (subject : String) :
    List (CommandRequest × CommandReply) → Outcome → Prop
  | unmatched (unmatched : ∀ arm ∈ unit.arms, arm.pattern.bindings? subject = .ok none) :
    Settles unit bindings subject [] .noMatch
  | ran {found : Match} {command text : String} {given : CommandResult}
    (matched : firstMatch subject unit.arms = .ok (some found))
    (isShell : found.arm.action = .shell command)
    (filled : interpolate (bindCaptures bindings found.bindings) (some unit.name) command = .ok text) :
    Settles unit bindings subject
      [(⟨.arm, text, exportEnv (bindCaptures bindings found.bindings), unit.workplace⟩, .finished given)]
      (if given.ok then .success else .commandFailed)

/-- The last unit of a trail matches in some state, and settles all that follows. -/
def Decides (program : Program) (events : List Event) (trail : List String) (outcome : Outcome) : Prop :=
  ∃ early moment late unit subject, events = early ++ .passed moment :: late ∧
    moment.chain.state = .matching ∧ moment.chain.trail = trail ∧ trail.getLast? = some unit.name ∧
    moment.chain.stack.getLast? = some unit.name ∧ program.lookup unit.name = some unit ∧
    moment.session.lookup unit.subject = some subject ∧
    unit.Settles moment.session.bindings subject (commandsIn late) outcome

/-- What comes before does not matter, nor what comes after if no command is run. -/
theorem Decides.within {program : Program} {events : List Event} {trail : List String} {outcome : Outcome}
    (decides : Decides program events trail outcome) (before after : List Event)
    (quiet : commandsIn after = []) : Decides program (before ++ (events ++ after)) trail outcome := by
  obtain ⟨early, moment, late, unit, subject, rfl, matching, isTrail, isLast, onTop, isUnit, isSubject,
    settles⟩ := decides
  refine ⟨before ++ early, moment, late ++ after, unit, subject, by simp, matching, isTrail, isLast, onTop,
    isUnit, isSubject, ?_⟩
  rw [commandsIn_append, quiet, List.append_nil]
  exact settles

theorem Decides.behind {program : Program} {events : List Event} {trail : List String} {outcome : Outcome}
    (decides : Decides program events trail outcome) (before : List Event) :
    Decides program (before ++ events) trail outcome := by
  have whole := decides.within before [] rfl
  rw [List.append_nil] at whole
  exact whole

theorem unmatched_of_firstMatch {subject : String} {arms : List Arm}
    (unmatched : firstMatch subject arms = .ok none) :
    ∀ arm ∈ arms, arm.pattern.bindings? subject = .ok none := by
  have fromIndex : ∀ index, firstMatchFrom subject index arms = .ok none →
      ∀ arm ∈ arms, arm.pattern.bindings? subject = .ok none := by
    clear unmatched
    intro index isNone
    fun_induction firstMatchFrom subject index arms with
    | case1 => simp
    | case2 | case3 => cases isNone
    | case4 index arm rest isFirst ih => exact List.forall_mem_cons.mpr ⟨isFirst, ih isNone⟩
  exact fromIndex 0 unmatched

/-- The choice of a unit is that of the first arm that matches its subject. -/
theorem PromptUnit.choice_eq_ok {unit : PromptUnit} {session : Session} {found : Option Match}
    (chosen : unit.choice session = .ok found) :
    ∃ subject, session.lookup unit.subject = some subject ∧ firstMatch subject unit.arms = .ok found := by
  unfold choice at chosen
  split at chosen
  · cases chosen
  · rename_i subject isSubject
    split at chosen
    · cases chosen
    · rename_i matched
      cases chosen
      exact ⟨subject, isSubject, matched⟩

/-! ### Rules of tasks -/

section Tasks

variable {setting : Setting} {program : Program} {unit : PromptUnit} {before after : Running}
  {events : List Event} {outcome : Outcome}

/-- A command breaks off, or it finishes as it was asked for, with its variables filled in. -/
theorem runs_runCommand {purpose : Purpose} {command : String} {result : Except Stop (String × CommandResult)}
    (runs : (runCommand purpose unit command before).Runs events (after, result)) :
    after = before ∧ ((∃ reason, result = .error reason) ∧ finishedIn events = [] ∨
      ∃ text given, result = .ok (text, given) ∧
        interpolate before.session.bindings (some unit.name) command = .ok text ∧ commandsIn events
          = [(⟨purpose, text, exportEnv before.session.bindings, unit.workplace⟩, .finished given)]) := by
  unfold runCommand at runs
  obtain ⟨later, rfl, filling⟩ := Act.runs_running_bind runs
  dsimp only at filling
  cases filled : interpolate before.session.bindings (some unit.name) command with
  | error fault =>
    rw [filled] at filling
    cases filling
    exact ⟨rfl, Or.inl ⟨⟨_, rfl⟩, rfl⟩⟩
  | ok inserted =>
    rw [filled] at filling
    change ((Act.info _ >>= _) before).Runs later _ at filling
    obtain ⟨last, rfl, running⟩ := Act.runs_info_bind filling
    cases running with
    | run reply ending =>
      cases reply with
      | finished given =>
        cases ending
        exact ⟨rfl, Or.inr ⟨_, _, rfl, rfl, rfl⟩⟩
      | cancelled | crashed =>
        cases ending
        exact ⟨rfl, Or.inl ⟨⟨_, rfl⟩, rfl⟩⟩

theorem runs_runCommand_ok {purpose : Purpose} {command text : String} {given : CommandResult}
    (runs : (runCommand purpose unit command before).Runs events (after, .ok (text, given))) :
    after = before ∧ interpolate before.session.bindings (some unit.name) command = .ok text ∧
      commandsIn events
        = [(⟨purpose, text, exportEnv before.session.bindings, unit.workplace⟩, .finished given)] := by
  obtain ⟨same, ⟨⟨_, isError⟩, _⟩ | ⟨_, _, isOk, finished⟩⟩ := runs_runCommand runs
  · cases isError
  · cases isOk
    exact ⟨same, finished⟩

/-- Where a unit stands when it chooses: on top of the stack, and last on the trail. -/
def Task.IsLast (program : Program) (before : Running) : Task → Prop
  | enter unit => program.lookup unit.name = some unit
  | choose unit => program.lookup unit.name = some unit ∧ before.chain.trail.getLast? = some unit.name ∧
    before.chain.stack.getLast? = some unit.name
  | act _ _ | call _ _ _ => True

/-- How the outcome of a task comes about: by the last unit that it enters, by the command of an arm, or it
was there before. -/
def Task.Decides (program : Program) (before : Running) (events : List Event) (after : Running)
    (outcome : Outcome) : Task → Prop
  | enter _ | choose _ => PromptChain.Decides program events after.chain.trail outcome
  | act unit (.shell command) => after.chain.trail = before.chain.trail ∧ ∃ text given,
    interpolate before.session.bindings (some unit.name) command = .ok text ∧
    commandsIn events
      = [(⟨.arm, text, exportEnv before.session.bindings, unit.workplace⟩, .finished given)] ∧
    outcome = if given.ok then .success else .commandFailed
  | act _ (.pipe _ targets) | act _ (.call targets) =>
    targets ≠ [] → PromptChain.Decides program events after.chain.trail outcome
  | call _ given targets => (targets = [] → events = [] ∧ after = before ∧ outcome = given) ∧
    (targets ≠ [] → PromptChain.Decides program events after.chain.trail outcome)

theorem Decides.framed {trail : List String} (decides : Decides program events trail outcome)
    (target : PromptUnit) (before ended : Running) :
    Decides program (target.framed before events ended) trail outcome := by
  unfold PromptUnit.framed
  split
  · exact decides
  · exact decides.within [.passed (target.outset before)] [.passed (target.returned before ended)] rfl

theorem Resumes.commandsIn_eq (resumes : Resumes before events after) : commandsIn events = [] := by
  cases resumes <;> rfl

/-- A choice that calls no unit decides. -/
theorem decides_of_choice {rest : List Event} (isLast : (Task.choose unit).IsLast program before)
    {subject : String} (isSubject : before.session.lookup unit.subject = some subject)
    (settles : unit.Settles before.session.bindings subject (commandsIn rest) outcome) :
    Decides program (before.moveEvents .matching ++ rest) before.chain.trail outcome := by
  obtain ⟨isUnit, onTrail, onTop⟩ := isLast
  exact ⟨[.said _], before.moved .matching, rest, unit, subject, rfl, rfl, rfl, onTrail, onTop, isUnit,
    isSubject, settles⟩

/-- **A task that is not stopped is decided by the last unit that it enters.** -/
theorem TaskRun.decided {depth : Nat} {task : Task} {result : Except Stop Outcome}
    (run : TaskRun setting depth task before events after result) (tidy : setting.program.Tidy)
    (isLast : task.IsLast setting.program before) (isOk : result = .ok outcome) :
    task.Decides setting.program before events after outcome := by
  induction run generalizing outcome with
  | refused | unheard | undecided | halted | pipeFailed | unresolved | cyclic | stopped => cases isOk
  | @heard _ unit before middle ended early late turn _ _ _ _ hearing _ choosing =>
    have sameTrail : middle.chain.trail = before.chain.trail ++ [unit.name] :=
      (congrArg Chain.trail hearing.aside.2 :)
    have onTrail : (middle.told turn).chain.trail.getLast? = some unit.name := by
      show middle.chain.trail.getLast? = _
      rw [sameTrail]
      exact List.getLast?_concat
    have onTop : (middle.told turn).chain.stack.getLast? = some unit.name := by
      show middle.chain.stack.getLast? = _
      rw [hearing.stack_eq]
      exact List.getLast?_concat
    have chosen : Decides setting.program late ended.chain.trail outcome :=
      choosing ⟨isLast, onTrail, onTop⟩ isOk
    have whole := chosen.within (before.entryEvents unit ++ (early ++ [.passed (middle.told turn)]))
      [.passed ended.left] rfl
    simp only [List.append_assoc, List.singleton_append] at whole
    exact whole
  | @unmatched _ unit before line _ chosen =>
    cases isOk
    obtain ⟨subject, isSubject, unmatched⟩ := PromptUnit.choice_eq_ok chosen
    exact decides_of_choice isLast isSubject (.unmatched (unmatched_of_firstMatch unmatched))
  | @matched _ unit before after found later result _ chosen _ acting =>
    obtain ⟨subject, isSubject, matched⟩ := PromptUnit.choice_eq_ok chosen
    have wellFormed : found.arm.action.WellFormed :=
      (tidy.wellFormed isLast.1).actions found.arm (mem_of_firstMatch matched)
    have decided := acting trivial isOk
    cases isAction : found.arm.action with
    | shell command =>
      rw [isAction] at decided
      obtain ⟨sameTrail, text, given, filled, areCommands, isOutcome⟩ := decided
      have settles : unit.Settles before.session.bindings subject (commandsIn later) outcome := by
        rw [areCommands, isOutcome]
        exact .ran matched isAction filled
      show Decides _ _ after.chain.trail _
      rw [sameTrail]
      exact decides_of_choice isLast isSubject settles
    | pipe command targets =>
      rw [isAction] at decided wellFormed
      exact (decided wellFormed.2.1).behind _
    | call targets =>
      rw [isAction] at decided wellFormed
      exact (decided wellFormed.1).behind _
  | @printed _ unit command text given before middle events fine running =>
    cases isOk
    obtain ⟨rfl, filled, areCommands⟩ := runs_runCommand_ok running
    refine ⟨rfl, text, given, filled, ?_, by rw [if_pos fine]⟩
    rw [commandsIn_append, areCommands]
    rfl
  | @failed _ unit command text given before middle events bad running =>
    cases isOk
    obtain ⟨rfl, filled, areCommands⟩ := runs_runCommand_ok running
    refine ⟨rfl, text, given, filled, ?_, by rw [bad]; rfl⟩
    rw [commandsIn_append, areCommands]
    rfl
  | @piped _ _ _ _ _ given before middle _ early later line _ _ running _ calling =>
    intro some
    have called := (calling trivial isOk).2 some
    have whole := called.behind (early ++ [.passed (middle.piped (trimOutput given.stdout)), .said line])
    rw [List.append_assoc] at whole
    exact whole
  | called _ calling => exact (calling trivial isOk).2
  | finished =>
    cases isOk
    exact ⟨fun _ => ⟨rfl, rfl, rfl⟩, fun some => absurd rfl some⟩
  | @next _ _ target _ _ _ rest before ended middle _ inner steps later line _ _ found _ _ resuming _ entering
      calls =>
    have entered := (entering (tidy.keyed.lookup_name found) rfl).framed target before ended
    obtain ⟨atEnd, goesOn⟩ := calls trivial isOk
    refine ⟨fun none => absurd none (List.cons_ne_nil _ _), fun _ => ?_⟩
    by_cases none : rest = []
    · obtain ⟨noMore, isEnd, isOutcome⟩ := atEnd none
      have sameTrail : middle.chain.trail = ended.chain.trail := by
        rw [resuming.trail_eq, target.chain_returned]
      rw [noMore, isEnd, isOutcome, sameTrail, List.append_nil]
      exact entered.within [.passed before, .said line] steps resuming.commandsIn_eq
    · have whole := (goesOn none).behind
        ([.passed before, .said line] ++ (target.framed before inner ended ++ steps))
      rw [List.append_assoc, List.append_assoc] at whole
      exact whole

end Tasks

/-- **The last unit that is entered decides the outcome.** In every chain of a loaded program that comes to an
outcome without being stopped, from every session and with every host:

* The last unit of the trail matches in some state. If none of its arms matches, that is the outcome, and no
  command is run from then on. Else the first arm that matches runs a command, which is the only one from then
  on, and the outcome says whether it went well.
* Every unit of the trail has been left. It has entered the units that the arm that matched calls, in the
  order in which they are written, and no others. -/
theorem last_unit_decides_outcome (setting : Setting) {tree : Files.Tree} {here : Files.Place} {strict : Bool}
    {sources : List SourceInput} {log : List LogLine}
    (loaded : load tree here strict sources = (log, .ok setting.program)) (name user : String)
    (session : Option Session) {σ : Type} (host : Query.Host σ) (state : σ) {outcome : Outcome}
    (ends : ((runNamed setting name (startSession user session)).perform host state).1.2 = .ok outcome) :
    let query := invoke setting name user session
    let events := query.trace host state
    let report := (query.perform host state).1.1
    let journey := Journey.after {} events
    report.outcome = outcome ∧ Decides setting.program events report.trail outcome ∧
      journey.flight = [] ∧ (journey.ended.map Visit.name).Perm report.trail ∧
      ∀ visit ∈ journey.ended, visit.Complete setting.program := by
  intro query events report journey
  obtain ⟨performed, traced⟩ := perform_invoke setting name user session host state
  let start := startSession user session
  let inner := (runNamed setting name start).trace host state
  let ended := ((runNamed setting name start).perform host state).1
  have isReport : report = endReport setting name ended _ := congrArg Prod.fst performed
  have isTrail : report.trail = ended.1.chain.trail := by
    rw [isReport]
    rfl
  have isOutcome : report.outcome = outcome := by
    rw [isReport]
    show endOutcome setting name ended.2 = outcome
    rw [show ended.2 = .ok outcome from ends]
    rfl
  have isJourney : journey = Journey.after {} inner := by
    show Journey.after {} events = _
    rw [show events = _ from traced, Journey.after_append]
    rfl
  have tidy := tidy_of_load loaded
  rcases runs_runNamed ((runNamed setting name start).runs_trace host state) with
    ⟨_, _, _, isEnd⟩ | ⟨unit, found, run⟩
  · cases isEnd.symm.trans ends
  · have isFound := tidy.keyed.lookup_name found
    have decided : Decides setting.program inner ended.1.chain.trail outcome := run.decided tidy isFound ends
    have even : (Running.mk { root := unit.name } start).chain.stack.length = ({} : Journey).flight.length :=
      rfl
    have departs : (Task.enter unit).Departs setting.program ({} : Journey).flight :=
      ⟨isFound, by simp [Visit.Settled]⟩
    obtain ⟨_, journeyed, rfl⟩ := run.journeyed tidy.keyed even departs ends
    obtain ⟨visits, entered, areEnded, isEntered, perm, complete⟩ := journeyed.visits
    have areVisits : (Journey.after {} inner).ended = visits := areEnded
    have isTrailEnd : ended.1.chain.trail = entered := isEntered
    rw [isTrail, isJourney, areVisits, isTrailEnd]
    refine ⟨isOutcome, ?_, journeyed.flight, perm, complete⟩
    rw [show events = _ from traced, ← isTrailEnd]
    exact decided.within [] _ rfl

/-- A unit that calls two others: no arm of the first matches, and the second runs a command. -/
def pairSource : String :=
  "Main\ndirection:m\n\x7bmatch $AI\x7b\"ab\"=>first,second\x7d\x7d\n"
    ++ "First\ndirection:f\n\x7bmatch $AI\x7b\"c\"=>`f`\x7d\x7d\n"
    ++ "Second\ndirection:s\n\x7bmatch $AI\x7b\"ab\"=>`s $M0`\x7d\x7d\n"

/-- The first call matches nothing, and the chain succeeds all the same. -/
theorem pairSource_decided_by_second :
    ∃ log program, load {} [] false [.text pairSource] = (log, .ok program) ∧
      ((runNamed ⟨program, true, 0⟩ "main" (startSession "" none)).perform (parrotHost "ab") ()).1.2
        = .ok .success ∧
      let query := invoke ⟨program, true, 0⟩ "main" "" none
      Decides program (query.trace (parrotHost "ab") ()) ["Main", "First", "Second"] .success ∧
      ∀ visit ∈ (Journey.after {} (query.trace (parrotHost "ab") ())).ended, visit.Complete program := by
  have evaluated : (load {} [] false [.text pairSource]).2.toOption.map (fun program =>
      (((runNamed ⟨program, true, 0⟩ "main" (startSession "" none)).perform (parrotHost "ab") ()).1.2.toOption,
        ((invoke ⟨program, true, 0⟩ "main" "" none).perform (parrotHost "ab") ()).1.1.trail))
      = some (some .success, ["Main", "First", "Second"]) := by
    decide +kernel
  obtain ⟨log, program, loaded, isPair⟩ := exists_of_load_map evaluated
  obtain ⟨succeeds, isTrail⟩ := Prod.mk.inj isPair
  have ends : ((runNamed ⟨program, true, 0⟩ "main" (startSession "" none)).perform (parrotHost "ab") ()).1.2
      = .ok .success := by
    cases isEnd : ((runNamed ⟨program, true, 0⟩ "main" (startSession "" none)).perform (parrotHost "ab") ()).1.2
    · rw [isEnd] at succeeds
      cases succeeds
    · rw [isEnd] at succeeds
      exact congrArg _ (Option.some.inj succeeds)
  obtain ⟨_, decides, _, _, complete⟩ := last_unit_decides_outcome ⟨program, true, 0⟩ loaded "main" "" none
    (parrotHost "ab") () ends
  rw [isTrail] at decides
  exact ⟨log, program, loaded, ends, decides, complete⟩

end PromptChain
