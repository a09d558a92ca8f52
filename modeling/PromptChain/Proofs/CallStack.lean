/-
**Every chain ends, and its call stack is disciplined.**

At every moment the names in flight are names of loaded units, no two of them with one key
(`Program.IsCallStack`), so calls nest no deeper than there are units. `Act.Keeps` says this of an act that
starts at a call stack, together with two more facts: the act ends at the stack it started at, however it
ends, and it makes at most so many requests. Each part of a chain has such a lemma, and the whole follows
by induction over the nesting (`keeps_runUnit`).

The fuel of `runUnit` never decides: when it is used up, every unit is in flight, so that the unit would
not be entered anyway (`runUnit_succ`).

Main statement: `runUnit_disciplined`.
-/

import Mathlib.Data.List.MinMax
import Mathlib.Data.List.Perm.Subperm
import PromptChain.Chain.Execution
import PromptChain.Proofs.Load
import PromptChain.Proofs.Runs

namespace PromptChain

/-! ### Call stacks -/

/-- Names of loaded units, no two of them with one key. -/
structure Program.IsCallStack (program : Program) (stack : List String) : Prop where
  distinct : (stack.map nameKey).Nodup
  loaded : ∀ name ∈ stack, ∃ unit ∈ program.loaded, unit.name = name

theorem Chain.inFlight_iff (chain : Chain) (name : String) :
    chain.inFlight name = true ↔ nameKey name ∈ chain.stack.map nameKey := by
  simp [Chain.inFlight]

namespace Program.IsCallStack

variable {program : Program} {stack : List String}

theorem nil : program.IsCallStack [] := ⟨List.nodup_nil, by simp⟩

theorem subperm (isStack : program.IsCallStack stack) :
    (stack.map nameKey).Subperm (program.loaded.map PromptUnit.key) := by
  refine List.subperm_of_subset isStack.distinct fun key isKey => ?_
  obtain ⟨name, isName, rfl⟩ := List.mem_map.mp isKey
  obtain ⟨unit, isLoaded, rfl⟩ := isStack.loaded name isName
  exact List.mem_map_of_mem isLoaded

/-- **Calls nest no deeper than there are units.** -/
theorem length_le (isStack : program.IsCallStack stack) : stack.length ≤ program.loaded.length := by
  simpa using isStack.subperm.length_le

/-- A stack of as many names as there are units holds them all. -/
theorem mem_of_full (isStack : program.IsCallStack stack)
    (full : program.loaded.length ≤ stack.length) {unit : PromptUnit} (isLoaded : unit ∈ program.loaded) :
    unit.key ∈ stack.map nameKey := by
  have all := isStack.subperm.perm_of_length_le (by simpa using full)
  exact all.mem_iff.mpr (List.mem_map_of_mem isLoaded)

/-- A unit that is not in flight can be entered. -/
theorem push (isStack : program.IsCallStack stack) {unit : PromptUnit}
    (isLoaded : unit ∈ program.loaded) (isNew : unit.key ∉ stack.map nameKey) :
    program.IsCallStack (stack ++ [unit.name]) := by
  constructor
  · rw [List.map_append, List.nodup_append]
    refine ⟨isStack.distinct, List.nodup_singleton _, ?_⟩
    intro key isKey other isOther same
    rw [List.map_singleton, List.mem_singleton] at isOther
    rw [same, isOther] at isKey
    exact isNew isKey
  · intro name isName
    rcases List.mem_append.mp isName with before | last
    · exact isStack.loaded name before
    · exact ⟨unit, isLoaded, (List.mem_singleton.mp last).symm⟩

end Program.IsCallStack

/-! ### Acts that keep the stack -/

/-- What an act may do that starts at a call stack: pass call stacks, make so many requests, and end at
the stack. -/
structure Disciplined (program : Program) (stack : List String) (limit : Nat) (events : List Event)
    (after : Running) : Prop where
  stack : after.chain.stack = stack
  moments : ∀ moment, Event.passed moment ∈ events → program.IsCallStack moment.chain.stack
  requests : events.countP Event.isRequest ≤ limit

namespace Disciplined

variable {program : Program} {stack other : List String} {limit more : Nat} {events : List Event}
  {running after : Running}

/-- Nothing happens. -/
theorem nil (same : after.chain.stack = stack) : Disciplined program stack 0 [] after :=
  ⟨same, by simp, by simp⟩

theorem cons_passed (isStack : program.IsCallStack running.chain.stack)
    (rest : Disciplined program stack limit events after) :
    Disciplined program stack limit (.passed running :: events) after := by
  refine ⟨rest.stack, fun moment isMoment => ?_, ?_⟩
  · rcases List.mem_cons.mp isMoment with here | later
    · rw [Event.passed.injEq] at here
      exact here ▸ isStack
    · exact rest.moments moment later
  · rw [List.countP_cons_of_neg (by simp [Event.isRequest])]
    exact rest.requests

theorem cons_said {line : LogLine} (rest : Disciplined program stack limit events after) :
    Disciplined program stack limit (.said line :: events) after := by
  refine ⟨rest.stack, fun moment isMoment => rest.moments moment (by simpa using isMoment), ?_⟩
  rw [List.countP_cons_of_neg (by simp [Event.isRequest])]
  exact rest.requests

/-- Requests add up. -/
theorem append {late : List Event} {middle : Running}
    (first : Disciplined program other limit events middle)
    (second : Disciplined program stack more late after) :
    Disciplined program stack (limit + more) (events ++ late) after := by
  refine ⟨second.stack, fun moment isMoment => ?_, ?_⟩
  · exact (List.mem_append.mp isMoment).elim (first.moments moment) (second.moments moment)
  · rw [List.countP_append]
    exact Nat.add_le_add first.requests second.requests

theorem mono (fewer : limit ≤ more) (disciplined : Disciplined program stack limit events after) :
    Disciplined program stack more events after :=
  ⟨disciplined.stack, disciplined.moments, disciplined.requests.trans fewer⟩

/-- An end at a state with the stack. -/
theorem arrive {α : Type} {given result : Except Stop α}
    (runs : (Act.arrive running given).Runs events (after, result))
    (isStack : program.IsCallStack stack) (same : running.chain.stack = stack) :
    Disciplined program stack 0 events after := by
  cases runs with
  | pass runs =>
    cases runs
    exact (nil same).cons_passed (same ▸ isStack)

end Disciplined

namespace Act

variable {program : Program} {stack : List String} {limit more : Nat} {α β : Type} {act : Act α}

/-- All runs of an act that start at a stack are disciplined. -/
def Keeps (program : Program) (stack : List String) (limit : Nat) (act : Act α) : Prop :=
  ∀ before, before.chain.stack = stack → ∀ events after result,
    (act before).Runs events (after, result) → Disciplined program stack limit events after

theorem Keeps.mono (keeps : Keeps program stack limit act) (fewer : limit ≤ more) :
    Keeps program stack more act :=
  fun before same events after result runs => (keeps before same events after result runs).mono fewer

theorem keeps_pure (value : α) : Keeps program stack 0 (pure value : Act α) := by
  intro before same events after result runs
  cases runs
  exact .nil same

theorem keeps_stop (reason : Stop) : Keeps program stack 0 (stop reason : Act α) := by
  intro before same events after result runs
  cases runs
  exact .nil same

/-- **Two acts in a row** make the requests of both. -/
theorem Keeps.bind {next : α → Act β} (first : Keeps program stack limit act)
    (second : ∀ value, Keeps program stack more (next value)) :
    Keeps program stack (limit + more) (act >>= next) := by
  intro before same events after result runs
  rcases runs_bind runs with ⟨early, late, middle, value, rfl, firstRuns, secondRuns⟩ |
    ⟨reason, stopped, rfl⟩
  · have start := first before same early middle _ firstRuns
    exact start.append (second value middle start.stack late after _ secondRuns)
  · exact (first before same events after _ stopped).mono (Nat.le_add_right _ _)

/-- An act that goes on from the state it reads. -/
theorem keeps_running_bind (isStack : program.IsCallStack stack) {next : Running → Act β}
    (later : ∀ running, running.chain.stack = stack → Keeps program stack limit (next running)) :
    Keeps program stack limit (running >>= next) := by
  intro before same events after result runs
  cases runs with
  | pass runs => exact (later before same before same _ after result runs).cons_passed (same ▸ isStack)

/-! ### Single steps -/

theorem keeps_modifyChain (isStack : program.IsCallStack stack) {change : Chain → Chain}
    (unchanged : ∀ chain, (change chain).stack = chain.stack) :
    Keeps program stack 0 (modifyChain change) :=
  fun before same _ _ _ runs => .arrive runs isStack ((unchanged before.chain).trans same)

theorem keeps_modifySession (isStack : program.IsCallStack stack) (change : Session → Session) :
    Keeps program stack 0 (modifySession change) :=
  fun _ same _ _ _ runs => .arrive runs isStack same

theorem keeps_info (text : String) : Keeps program stack 0 (info text) := by
  intro before same events after result runs
  cases runs with
  | say runs =>
    cases runs
    exact (Disciplined.nil same).cons_said

theorem keeps_warn (isStack : program.IsCallStack stack) (fault : Fault) :
    Keeps program stack 0 (warn fault) := by
  intro before same events after result runs
  cases runs with
  | say runs => exact (Disciplined.arrive runs isStack same).cons_said

theorem keeps_ofExcept (found : Except Fault α) : Keeps program stack 0 (ofExcept found) := by
  cases found with
  | ok value => exact keeps_pure value
  | error fault => exact keeps_stop _

theorem keeps_ask (request : ModelRequest) : Keeps program stack 1 (ask request) := by
  intro before same events after result runs
  cases runs with
  | ask reply runs =>
    cases reply <;> cases runs <;> exact ⟨same, by simp, by simp [Event.isRequest]⟩

theorem keeps_run (request : CommandRequest) : Keeps program stack 1 (run request) := by
  intro before same events after result runs
  cases runs with
  | run reply runs =>
    cases reply <;> cases runs <;> exact ⟨same, by simp, by simp [Event.isRequest]⟩

/-- A step to a state leaves the stack alone. -/
theorem keeps_goTo (isStack : program.IsCallStack stack) (next : ChainState) :
    Keeps program stack 0 (goTo next) := by
  intro before same events after result runs
  unfold goTo Chain.step at runs
  by_cases there : next = before.chain.state
  · rw [if_pos there] at runs
    cases runs
    exact .nil same
  · by_cases may : before.chain.state.mayGo next
    · rw [if_neg there, if_pos may] at runs
      cases runs with
      | say runs => exact (Disciplined.arrive runs isStack same).cons_said
    · rw [if_neg there, if_neg may] at runs
      cases runs
      exact .nil same

/-! ### Acts inside acts -/

/-- An act at another stack, between a state that is entered and one that is left. -/
theorem Keeps.within {inner : List String} (keeps : Keeps program inner limit act)
    {entered after : Running} (leave : Running → Running) {events : List Event}
    {result : Except Stop α} (runs : (Query.pass entered ((act entered).bind fun ended =>
      arrive (leave ended.1) ended.2)).Runs events (after, result))
    (isInner : program.IsCallStack inner) (isStack : program.IsCallStack stack)
    (isEntered : entered.chain.stack = inner)
    (left : ∀ running, running.chain.stack = inner → (leave running).chain.stack = stack) :
    Disciplined program stack limit events after := by
  cases runs with
  | pass runs =>
    obtain ⟨early, late, ⟨running, given⟩, rfl, actRuns, leaveRuns⟩ := Query.runs_bind runs
    have inside := keeps entered isEntered early running given actRuns
    have outside := Disciplined.arrive leaveRuns isStack (left running inside.stack)
    exact (inside.append outside).cons_passed (isEntered ▸ isInner)

/-- A conversation of its own leaves the stack alone. -/
theorem Keeps.isolated (keeps : Keeps program stack limit act) (isStack : program.IsCallStack stack) :
    Keeps program stack limit (isolated act) := by
  intro before same events after result runs
  exact keeps.within (fun running =>
    { running with session := { running.session with turns := before.session.turns } })
    runs isStack isStack same fun _ kept => kept

/-- **A unit in flight** is on the stack while it runs, and is taken off it in the end. -/
theorem Keeps.inFlight {name : String} (keeps : Keeps program (stack ++ [name]) limit act)
    (isStack : program.IsCallStack stack) (isInner : program.IsCallStack (stack ++ [name])) :
    Keeps program stack limit (inFlight name act) := by
  intro before same events after result runs
  refine keeps.within (fun running => { running with chain := running.chain.pop }) runs isInner isStack
    (by rw [Chain.push, same]) ?_
  intro running kept
  rw [Chain.pop, kept, List.dropLast_concat]

end Act

/-! ### How many requests there can be -/

/-- The commands of a segment. -/
def Segment.commandCount : Segment → Nat
  | text _ => 0
  | shell _ => 1

/-- The requests of calls, when entering a unit makes so many. -/
def Program.callLimit (program : Program) (limit : PromptUnit → Nat) (targets : List String) : Nat :=
  (targets.map fun name => (program.lookup name).elim 0 limit).sum

/-- The requests of an action, when entering a unit makes so many. -/
def Action.requestLimit (program : Program) (limit : PromptUnit → Nat) : Action → Nat
  | shell _ => 1
  | call targets => program.callLimit limit targets
  | pipe _ targets => 1 + program.callLimit limit targets

/-- The requests of a unit: the commands of its direction, the model, and the worst of its arms. -/
def PromptUnit.requestLimit (program : Program) (limit : PromptUnit → Nat) (unit : PromptUnit) : Nat :=
  (unit.direction.segments.map Segment.commandCount).sum
    + (1 + (unit.arms.map fun arm => arm.action.requestLimit program limit).foldr max 0)

/-- The requests of a unit whose calls nest so deep. -/
def Program.requestLimit (program : Program) : Nat → PromptUnit → Nat
  | 0, _ => 0
  | depth + 1, unit => unit.requestLimit program (program.requestLimit depth)

/-! ### The parts of a chain -/

section Parts

open Act

variable {program : Program} {stack : List String}
  {enter : PromptUnit → Act Outcome} {setting : Setting} {limit : PromptUnit → Nat}

theorem keeps_runCommand (isStack : program.IsCallStack stack) (purpose : Purpose) (unit : PromptUnit)
    (command : String) : Keeps program stack 1 (runCommand purpose unit command) := by
  unfold runCommand
  refine keeps_running_bind isStack fun running _ => ?_
  refine ((keeps_ofExcept _).bind fun command => (keeps_info _).bind fun _ =>
    (keeps_run _).bind fun result => keeps_pure _).mono ?_
  omega

theorem keeps_reportFailure (isStack : program.IsCallStack stack) (command : String)
    (result : CommandResult) : Keeps program stack 0 (reportFailure warn command result) := by
  unfold reportFailure
  split
  · exact keeps_pure ()
  · exact keeps_warn isStack _

/-- The commands of a direction are the requests of its segments. -/
theorem keeps_runSegments (isStack : program.IsCallStack stack) (name : Option String)
    (workplace : Workplace) (segments : List Segment) :
    Keeps program stack (segments.map Segment.commandCount).sum
      (runSegments warn name workplace segments) := by
  induction segments with
  | nil => exact keeps_pure []
  | cons segment segments ih =>
    rw [List.map_cons, List.sum_cons]
    cases segment with
    | text plain =>
      refine (ih.bind fun parts => keeps_pure _).mono ?_
      simp [Segment.commandCount]
    | shell command =>
      refine keeps_running_bind isStack fun running _ => ?_
      refine ((keeps_ofExcept _).bind fun command => (keeps_run _).bind fun result =>
        (keeps_reportFailure isStack command result).bind fun _ => ih.bind fun parts =>
          keeps_pure _).mono ?_
      simp [Segment.commandCount]

theorem keeps_resolve (isStack : program.IsCallStack stack) (name : Option String)
    (workplace : Workplace) (template : Template) :
    Keeps program stack (template.segments.map Segment.commandCount).sum
      (resolve warn name workplace template) := by
  refine ((keeps_runSegments isStack name workplace template.segments).bind fun parts =>
    keeps_running_bind isStack fun running _ => keeps_ofExcept _).mono ?_
  exact Nat.le_refl _

theorem keeps_takeReply (setting : Setting) (unit : PromptUnit) (reply : ModelReply) :
    Keeps program stack 0 (takeReply setting unit reply) := by
  cases reply with
  | answer text => exact (keeps_info _).bind fun _ => keeps_pure _
  | unavailable problem => exact keeps_stop _
  | late => exact keeps_stop _
  | crashed problem => exact keeps_stop _

theorem keeps_askModel (isStack : program.IsCallStack stack) (setting : Setting) (unit : PromptUnit)
    (direction : String) : Keeps program stack 1 (askModel setting unit direction) := by
  unfold askModel
  split
  · exact (keeps_stop _).mono (Nat.zero_le 1)
  · refine keeps_running_bind isStack fun running _ => ?_
    exact (keeps_info _).bind fun _ => (keeps_ask _).bind fun reply => keeps_takeReply setting unit reply

/-- Entering a loaded unit keeps the stack. -/
def KeepsUnits (program : Program) (stack : List String) (limit : PromptUnit → Nat)
    (enter : PromptUnit → Act Outcome) : Prop :=
  ∀ target ∈ program.loaded, Keeps program stack (limit target) (enter target)

theorem keeps_enterTarget (isStack : program.IsCallStack stack) {limit : Nat} {target : PromptUnit}
    (keeps : Keeps program stack limit (enter target)) :
    Keeps program stack limit (enterTarget enter target) := by
  unfold enterTarget
  split
  · exact keeps
  · exact keeps.isolated isStack

/-- The calls of an arm, one after the other. -/
theorem keeps_callTargets (tidy : program.Tidy) (isStack : program.IsCallStack stack)
    (keeps : KeepsUnits program stack limit enter) (caller : PromptUnit) (outcome : Outcome)
    (targets : List String) :
    Keeps program stack (program.callLimit limit targets)
      (callTargets program enter caller outcome targets) := by
  induction targets generalizing outcome with
  | nil => exact keeps_pure outcome
  | cons name targets ih =>
    rw [Program.callLimit, List.map_cons, List.sum_cons, ← Program.callLimit, callTargets]
    cases found : program.lookup name with
    | none => exact (keeps_stop _).mono (Nat.zero_le _)
    | some target =>
      refine keeps_running_bind isStack fun running _ => ?_
      dsimp only
      split
      · exact (keeps_stop _).mono (Nat.zero_le _)
      · refine ((keeps_info _).bind fun _ =>
          (keeps_enterTarget isStack (keeps target (tidy.mem_loaded_of_lookup found))).bind fun outcome =>
            (keeps_goTo isStack _).bind fun _ => ih outcome).mono ?_
        simp

theorem keeps_carryOut (tidy : program.Tidy) (isStack : program.IsCallStack stack)
    (keeps : KeepsUnits program stack limit enter) (unit : PromptUnit) (action : Action) :
    Keeps program stack (action.requestLimit program limit) (carryOut program enter unit action) := by
  cases action with
  | shell command =>
    show Keeps program stack (1 + (0 + 0)) (carryOut program enter unit (.shell command))
    refine (keeps_runCommand isStack .arm unit command).bind ?_
    rintro ⟨command, result⟩
    refine (keeps_modifyChain isStack (by intro chain; rfl)).bind fun _ => ?_
    split
    · exact keeps_pure _
    · exact (keeps_warn isStack _).bind fun _ => keeps_pure _
  | call targets => exact keeps_callTargets tidy isStack keeps unit .success targets
  | pipe command targets =>
    refine (keeps_runCommand isStack .pipe unit command).bind ?_
    rintro ⟨command, result⟩
    dsimp only
    split
    · exact (keeps_stop _).mono (Nat.zero_le _)
    · refine ((keeps_modifySession isStack _).bind fun _ => (keeps_info _).bind fun _ =>
        keeps_callTargets tidy isStack keeps unit .success targets).mono ?_
      simp

/-- The arm that matches is one of the arms. -/
theorem mem_of_firstMatch {answer : String} {arms : List Arm} {found : Match}
    (matched : firstMatch answer arms = .ok (some found)) : found.arm ∈ arms := by
  have fromIndex : ∀ index, firstMatchFrom answer index arms = .ok (some found) → found.arm ∈ arms := by
    clear matched
    induction arms with
    | nil =>
      intro index matched
      cases matched
    | cons arm arms ih =>
      intro index matched
      rw [firstMatchFrom] at matched
      split at matched
      · cases matched
      · cases matched
        exact List.mem_cons_self
      · exact List.mem_cons_of_mem _ (ih (index + 1) matched)
  exact fromIndex 0 matched

theorem keeps_matchAndAct (tidy : program.Tidy) (isStack : program.IsCallStack stack)
    (keeps : KeepsUnits program stack limit enter) (unit : PromptUnit) :
    Keeps program stack ((unit.arms.map fun arm => arm.action.requestLimit program limit).foldr max 0)
      (matchAndAct program enter unit) := by
  refine ((keeps_goTo isStack _).bind fun _ => keeps_running_bind isStack fun running _ => ?_).mono
    (Nat.zero_add _).le
  split
  · exact (keeps_stop _).mono (Nat.zero_le _)
  · split
    · exact (keeps_stop _).mono (Nat.zero_le _)
    · exact ((keeps_info _).bind fun _ => keeps_pure _).mono (Nat.zero_le _)
    · rename_i found matched
      have worst : found.arm.action.requestLimit program limit
          ≤ (unit.arms.map fun arm => arm.action.requestLimit program limit).foldr max 0 :=
        List.le_max_of_le' 0 (List.mem_map_of_mem (mem_of_firstMatch matched)) (Nat.le_refl _)
      refine ((keeps_info _).bind fun _ => (keeps_modifySession isStack _).bind fun _ =>
        (keeps_goTo isStack _).bind fun _ =>
          keeps_carryOut tidy isStack keeps unit found.arm.action).mono ?_
      simpa using worst

theorem keeps_driveUnit (tidy : setting.program.Tidy) (isStack : setting.program.IsCallStack stack)
    (keeps : KeepsUnits setting.program stack limit enter) (unit : PromptUnit) :
    Keeps setting.program stack (unit.requestLimit setting.program limit)
      (driveUnit setting enter unit) := by
  refine ((keeps_modifyChain isStack (by intro chain; rfl)).bind fun _ =>
    (keeps_goTo isStack _).bind fun _ => (keeps_resolve isStack _ _ _).bind fun direction =>
      (keeps_askModel isStack setting unit _).bind fun answer =>
        (keeps_modifySession isStack _).bind fun _ =>
          keeps_matchAndAct tidy isStack keeps unit).mono ?_
  rw [PromptUnit.requestLimit]
  omega

/-- A unit is entered when it is not in flight, and only then. -/
theorem keeps_enterUnit (isStack : setting.program.IsCallStack stack) {limit : Nat} {unit : PromptUnit}
    (isLoaded : unit ∈ setting.program.loaded) (keeps : setting.program.IsCallStack (stack ++ [unit.name]) →
      Keeps setting.program (stack ++ [unit.name]) limit (driveUnit setting enter unit)) :
    Keeps setting.program stack limit (enterUnit setting enter unit) := by
  refine keeps_running_bind isStack fun running same => ?_
  dsimp only
  split
  · exact (keeps_stop _).mono (Nat.zero_le _)
  · rename_i notInFlight
    rw [Chain.inFlight_iff, same] at notInFlight
    have isInner := isStack.push isLoaded notInFlight
    exact (keeps isInner).inFlight isStack isInner

/-- **Running a unit keeps the stack**, whatever the fuel. -/
theorem keeps_runUnit (tidy : setting.program.Tidy) (fuel : Nat) {stack : List String}
    (isStack : setting.program.IsCallStack stack) {unit : PromptUnit}
    (isLoaded : unit ∈ setting.program.loaded) :
    Keeps setting.program stack (setting.program.requestLimit fuel unit) (runUnit setting fuel unit) := by
  induction fuel generalizing stack unit with
  | zero => exact keeps_running_bind isStack fun running _ => keeps_stop _
  | succ fuel ih =>
    refine keeps_enterUnit isStack isLoaded fun isInner => ?_
    exact keeps_driveUnit tidy isInner (fun target isTarget => ih isInner isTarget) unit

end Parts

/-! ### The fuel never decides -/

namespace Act

variable {program : Program} {stack : List String} {limit : Nat} {α β : Type} {act other : Act α}

/-- Two acts are the same wherever the stack is the given one. -/
def SameAt (stack : List String) (act other : Act α) : Prop :=
  ∀ running, running.chain.stack = stack → act running = other running

theorem SameAt.refl (act : Act α) : SameAt stack act act := fun _ _ => rfl

theorem SameAt.bind {next nextToo : α → Act β} (same : SameAt stack act other)
    (keeps : Keeps program stack limit act)
    (later : ∀ value, SameAt stack (next value) (nextToo value)) :
    SameAt stack (act >>= next) (other >>= nextToo) := by
  intro running here
  show (act running).bind _ = (other running).bind _
  rw [← same running here]
  refine Query.bind_congr fun events (after, result) runs => ?_
  cases result with
  | ok value => exact later value after (keeps running here events after _ runs).stack
  | error reason => rfl

/-- Only what follows an act differs. -/
theorem Keeps.sameAt_bind {act : Act α} {next other : α → Act β} (keeps : Keeps program stack limit act)
    (later : ∀ value, SameAt stack (next value) (other value)) :
    SameAt stack (act >>= next) (act >>= other) := (SameAt.refl act).bind keeps later

theorem sameAt_running_bind {next other : Running → Act β}
    (later : ∀ running, running.chain.stack = stack → SameAt stack (next running) (other running)) :
    SameAt stack (running >>= next) (running >>= other) :=
  fun running here => congrArg (Query.pass running) (later running here running here)

theorem sameAt_info_bind (text : String) {next other : Unit → Act β}
    (later : SameAt stack (next ()) (other ())) :
    SameAt stack (info text >>= next) (info text >>= other) :=
  fun running here => congrArg (Query.say _) (later running here)

theorem SameAt.isolated (same : SameAt stack act other) :
    SameAt stack (isolated act) (isolated other) := by
  intro running here
  have inside := same { running with session := { running.session with turns := [] } } here
  exact congrArg (fun query => Query.pass _ (Query.bind query _)) inside

theorem SameAt.inFlight {name : String} (same : SameAt (stack ++ [name]) act other) :
    SameAt stack (inFlight name act) (inFlight name other) := by
  intro running here
  have inside := same { running with chain := running.chain.push name } (by rw [Chain.push, here])
  exact congrArg (fun query => Query.pass _ (Query.bind query _)) inside

end Act

section Fuel

open Act

variable {program : Program} {stack : List String} {limit : PromptUnit → Nat}
  {enter other : PromptUnit → Act Outcome}

/-- Entering a loaded unit is the same in two ways. -/
def SameUnits (program : Program) (stack : List String) (enter other : PromptUnit → Act Outcome) : Prop :=
  ∀ target ∈ program.loaded, SameAt stack (enter target) (other target)

theorem sameAt_enterTarget {target : PromptUnit} (same : SameAt stack (enter target) (other target)) :
    SameAt stack (enterTarget enter target) (enterTarget other target) := by
  unfold enterTarget
  split
  · exact same
  · exact same.isolated

theorem sameAt_callTargets (tidy : program.Tidy) (isStack : program.IsCallStack stack)
    (keeps : KeepsUnits program stack limit enter)
    (same : SameUnits program stack enter other)
    (caller : PromptUnit) (outcome : Outcome) (targets : List String) :
    SameAt stack (callTargets program enter caller outcome targets)
      (callTargets program other caller outcome targets) := by
  induction targets generalizing outcome with
  | nil => exact .refl _
  | cons name targets ih =>
    rw [callTargets, callTargets]
    cases found : program.lookup name with
    | none => exact .refl _
    | some target =>
      have isTarget := tidy.mem_loaded_of_lookup found
      have entered := sameAt_enterTarget (same target isTarget)
      refine sameAt_running_bind fun running _ => ?_
      dsimp only
      split
      · exact .refl _
      · exact sameAt_info_bind _ <|
          entered.bind (keeps_enterTarget isStack (keeps target isTarget)) fun outcome =>
            (keeps_goTo isStack _).sameAt_bind fun _ => ih outcome

theorem sameAt_carryOut (tidy : program.Tidy) (isStack : program.IsCallStack stack)
    (keeps : KeepsUnits program stack limit enter)
    (same : SameUnits program stack enter other)
    (unit : PromptUnit) (action : Action) :
    SameAt stack (carryOut program enter unit action) (carryOut program other unit action) := by
  cases action with
  | shell command => exact .refl _
  | call targets => exact sameAt_callTargets tidy isStack keeps same unit .success targets
  | pipe command targets =>
    refine (keeps_runCommand isStack .pipe unit command).sameAt_bind ?_
    rintro ⟨command, result⟩
    dsimp only
    split
    · exact .refl _
    · exact (keeps_modifySession isStack _).sameAt_bind fun _ => sameAt_info_bind _ <|
        sameAt_callTargets tidy isStack keeps same unit .success targets

theorem sameAt_matchAndAct (tidy : program.Tidy) (isStack : program.IsCallStack stack)
    (keeps : KeepsUnits program stack limit enter)
    (same : SameUnits program stack enter other) (unit : PromptUnit) :
    SameAt stack (matchAndAct program enter unit) (matchAndAct program other unit) := by
  refine (keeps_goTo isStack _).sameAt_bind fun _ => sameAt_running_bind fun running _ => ?_
  split
  · exact .refl _
  · split
    · exact .refl _
    · exact .refl _
    · exact sameAt_info_bind _ <| (keeps_modifySession isStack _).sameAt_bind fun _ =>
        (keeps_goTo isStack _).sameAt_bind fun _ => sameAt_carryOut tidy isStack keeps same unit _

theorem sameAt_driveUnit {setting : Setting} (tidy : setting.program.Tidy)
    (isStack : setting.program.IsCallStack stack)
    (keeps : KeepsUnits setting.program stack limit enter)
    (same : SameUnits setting.program stack enter other)
    (unit : PromptUnit) :
    SameAt stack (driveUnit setting enter unit) (driveUnit setting other unit) :=
  (keeps_modifyChain isStack (by intro chain; rfl)).sameAt_bind fun _ =>
    (keeps_goTo isStack _).sameAt_bind fun _ => (keeps_resolve isStack _ _ _).sameAt_bind fun direction =>
      (keeps_askModel isStack setting unit direction).sameAt_bind fun answer =>
        (keeps_modifySession isStack _).sameAt_bind fun _ =>
          sameAt_matchAndAct tidy isStack keeps same unit

/-- **More fuel changes nothing** when there is enough for the units that are not in flight. -/
theorem runUnit_succ {setting : Setting} (tidy : setting.program.Tidy) {fuel : Nat}
    {stack : List String} (isStack : setting.program.IsCallStack stack)
    (enough : setting.program.loaded.length ≤ fuel + stack.length) {unit : PromptUnit}
    (isLoaded : unit ∈ setting.program.loaded) :
    SameAt stack (runUnit setting fuel unit) (runUnit setting (fuel + 1) unit) := by
  induction fuel generalizing stack unit with
  | zero =>
    -- All units are in flight, this one too.
    refine sameAt_running_bind fun running here => ?_
    have inFlight : running.chain.inFlight unit.name = true := by
      rw [Chain.inFlight_iff, here]
      exact isStack.mem_of_full (by omega) isLoaded
    dsimp only
    rw [if_pos inFlight]
    exact .refl _
  | succ fuel ih =>
    refine sameAt_running_bind fun running here => ?_
    dsimp only
    by_cases inFlight : running.chain.inFlight unit.name = true
    · rw [if_pos inFlight, if_pos inFlight]
      exact .refl _
    · rw [if_neg inFlight, if_neg inFlight]
      rw [Chain.inFlight_iff, here] at inFlight
      have isInner := isStack.push isLoaded inFlight
      have enoughInner : setting.program.loaded.length ≤ fuel + (stack ++ [unit.name]).length := by
        rw [List.length_append, List.length_singleton]
        omega
      exact (sameAt_driveUnit tidy isInner (fun _ isTarget => keeps_runUnit tidy fuel isInner isTarget)
        (fun _ isTarget => ih isInner enoughInner isTarget) unit).inFlight

end Fuel

/-! ### Every chain ends -/

/-- **Running a unit ends, with a disciplined stack.** In a loaded program, from a call stack such as the
empty one of a new chain:

* running a unit is entering it with itself for the calls, so the depth that it is given decides nothing;
* whoever answers, at every moment the names in flight are names of loaded units with different keys, and
  so no more than there are loaded units;
* the number of requests has a bound that depends on the program and the unit only;
* in the end, however it came, the stack is the one from which it started. -/
theorem runUnit_disciplined {tree : Files.Tree} {here : Files.Place} {strict : Bool}
    {sources : List SourceInput} {log : List LogLine} (setting : Setting)
    (loaded : load tree here strict sources = (log, .ok setting.program)) (unit : PromptUnit)
    (isLoaded : unit ∈ setting.program.loaded) (running : Running)
    (isStack : setting.program.IsCallStack running.chain.stack) :
    let depth := setting.program.units.length
    let query := runUnit setting depth unit running
    query = enterUnit setting (runUnit setting depth) unit running ∧
      ∀ {σ : Type} (host : Query.Host σ) (state : σ),
        (∀ moment, Event.passed moment ∈ query.trace host state →
          setting.program.IsCallStack moment.chain.stack ∧
            moment.chain.stack.length ≤ setting.program.loaded.length) ∧
        (query.trace host state).countP Event.isRequest ≤ setting.program.requestLimit depth unit ∧
        (query.perform host state).1.1.chain.stack = running.chain.stack := by
  intro depth query
  have tidy := tidy_of_load loaded
  have enough : setting.program.loaded.length ≤ depth + running.chain.stack.length := by
    rw [Program.loaded, List.length_map]
    exact Nat.le_add_right _ _
  refine ⟨runUnit_succ tidy isStack enough isLoaded running rfl, fun host state => ?_⟩
  have kept := keeps_runUnit tidy depth isStack isLoaded running rfl _ _ _ (query.runs_trace host state)
  exact ⟨fun moment isMoment => ⟨kept.moments moment isMoment, (kept.moments moment isMoment).length_le⟩,
    kept.requests, kept.stack⟩

/-- A host that answers every request with nothing. -/
def silentHost : Query.Host Unit where
  say _ state := state
  clock _ := 0.0
  ask _ state := (some (.answer ""), state)
  run _ state := (.finished {}, state)

/-- The first run of a unit, by a host that answers with nothing: how it ends, and its requests. -/
def silentRun (program : Program) (unit : PromptUnit) : Outcome × Nat :=
  let setting : Setting := ⟨program, true, 0⟩
  let query := runUnit setting program.units.length unit ⟨{ root := unit.name }, Session.start ""⟩
  (endOutcome setting unit.name (query.perform silentHost ()).1.2,
    (query.trace silentHost ()).countP Event.isRequest)

/-- Two units that call each other make one request each; then the cycle ends the chain. -/
theorem cycleSource_ends_disciplined :
    ∃ log program unit, load {} [] false [.text Program.cycleSource] = (log, .ok program) ∧
      unit ∈ program.loaded ∧ program.IsCallStack [] ∧
      silentRun program unit = (.cyclicInvocation, 2) ∧
      let query := runUnit ⟨program, true, 0⟩ program.units.length unit
        ⟨{ root := unit.name }, Session.start ""⟩
      (∀ moment, Event.passed moment ∈ query.trace silentHost () →
        program.IsCallStack moment.chain.stack) ∧
      (query.trace silentHost ()).countP Event.isRequest
        ≤ program.requestLimit program.units.length unit ∧
      (query.perform silentHost ()).1.1.chain.stack = [] := by
  have evaluated : (load {} [] false [.text Program.cycleSource]).2.toOption.bind (fun program =>
      (program.lookup "ping").map (silentRun program)) = some (.cyclicInvocation, 2) := by
    decide +kernel
  rcases loaded : load {} [] false [.text Program.cycleSource] with ⟨log, result⟩
  rw [loaded] at evaluated
  cases result with
  | error problem => cases evaluated
  | ok program =>
    obtain ⟨unit, isUnit, silent⟩ := Option.map_eq_some_iff.mp evaluated
    have isLoaded := (tidy_of_load loaded).mem_loaded_of_lookup isUnit
    have isStack : program.IsCallStack [] := .nil
    obtain ⟨_, run⟩ := runUnit_disciplined ⟨program, true, 0⟩ loaded unit isLoaded
      ⟨{ root := unit.name }, Session.start ""⟩ isStack
    obtain ⟨moments, requests, stack⟩ := run silentHost ()
    exact ⟨log, program, unit, rfl, isLoaded, isStack, silent,
      fun moment isMoment => (moments moment isMoment).1, requests, stack⟩

end PromptChain
