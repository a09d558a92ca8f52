/-
**The units of a run, and what each of them entered.**

A `Journey` reads a run from outside and keeps, for every unit that was entered, the session in which it
matched and the units that it entered in turn (`Visit`). A visit is complete when these are the targets of the
arm that matched, in order (`Visit.Complete`).

* `Journey.Journeyed`: what a part of a run does to a journey. Parts in a row are one part.
* `TaskRun.journeyed`: **the visits of every task that is not stopped are complete**, by induction over the
  rules.
-/

import PromptChain.Proofs.Scopes

namespace PromptChain

/-! ### Journeys -/

/-- What is known of a unit that was entered. -/
structure Visit where
  name : String
  /-- The session in which it matched. -/
  matched : Option Session := none
  /-- The units that it entered, in order. -/
  called : List String := []

/-- The name of the unit that a target stands for. -/
def Program.nameOf (program : Program) (target : String) : String :=
  (program.lookup target).elim target PromptUnit.name

namespace Visit

/-- The targets of the arm that matched. -/
def targets (program : Program) (visit : Visit) : List String :=
  (visit.matched.bind fun session => (program.lookup visit.name).bind fun unit =>
    (unit.choice session).toOption.join).elim [] fun found => found.arm.action.targets

/-- The targets of the arm that matched were entered, all of them and in order, and no others. -/
def Complete (program : Program) (visit : Visit) : Prop :=
  visit.called = (visit.targets program).map program.nameOf

/-- A unit calls others. -/
def noteCalls (names : List String) : List Visit → List Visit
  | [] => []
  | top :: rest => { top with called := top.called ++ names } :: rest

@[simp]
theorem length_noteCalls (names : List String) (flight : List Visit) :
    (noteCalls names flight).length = flight.length := by
  cases flight <;> rfl

@[simp]
theorem noteCalls_nil (flight : List Visit) : noteCalls [] flight = flight := by
  cases flight with
  | nil => rfl
  | cons top rest => simp [noteCalls]

theorem noteCalls_noteCalls (first second : List String) (flight : List Visit) :
    noteCalls second (noteCalls first flight) = noteCalls (first ++ second) flight := by
  cases flight with
  | nil => rfl
  | cons top rest => simp [noteCalls]

/-- The unit on top, if there is one, has matched. -/
def Settled (flight : List Visit) : Prop := ∀ visit ∈ flight.head?, visit.matched.isSome = true

theorem Settled.noteCalls {flight : List Visit} (settled : Settled flight) (names : List String) :
    Settled (noteCalls names flight) := by
  cases flight with
  | nil => exact settled
  | cons top rest =>
    intro visit isTop
    cases isTop
    exact settled top rfl

end Visit

/-- The units of a run so far. -/
structure Journey where
  /-- Those in flight, the one on top first. -/
  flight : List Visit := []
  /-- Those that were left. -/
  ended : List Visit := []

namespace Journey

open Visit

/-- A unit is entered, by the one on top. -/
def enter (journey : Journey) (name : String) : Journey :=
  { journey with flight := { name } :: noteCalls [name] journey.flight }

/-- The unit on top is left. -/
def leave (journey : Journey) : Journey where
  flight := journey.flight.tail
  ended := journey.ended ++ journey.flight.head?.toList

/-- The unit on top matches, if it has not yet. -/
def noteMatch (journey : Journey) (session : Session) : Journey :=
  { journey with flight := match journey.flight with
    | [] => []
    | top :: rest => { top with matched := top.matched.or (some session) } :: rest }

/-- The unit on top has just matched, in a session. -/
def settle (journey : Journey) (name : String) (session : Session) : Journey :=
  { journey with flight := { name, matched := some session } :: journey.flight.tail }

/-- What an event changes: a stack that has grown shows an entry, one that has shrunk an exit. -/
def see (journey : Journey) : Event → Journey
  | .passed moment =>
    if journey.flight.length < moment.chain.stack.length then
      moment.chain.stack.getLast?.elim journey journey.enter
    else if moment.chain.stack.length < journey.flight.length then journey.leave
    else if moment.chain.state = .matching then journey.noteMatch moment.session
    else journey
  | _ => journey

/-- The journey after a part of a run. -/
def after (journey : Journey) (events : List Event) : Journey := events.foldl see journey

variable {program : Program} {journey : Journey} {before ended : Running} {events : List Event}
  {early late : List Event} {middle : Running}

@[simp]
theorem after_nil : journey.after [] = journey := rfl

@[simp]
theorem after_cons (event : Event) : journey.after (event :: events) = (journey.see event).after events := rfl

@[simp]
theorem after_append (early late : List Event) :
    journey.after (early ++ late) = (journey.after early).after late := List.foldl_append

/-- At every moment the units in flight are as many, and the one on top has matched if the chain matches. -/
def Steady (journey : Journey) (events : List Event) : Prop :=
  ∀ moment, Event.passed moment ∈ events → moment.chain.stack.length = journey.flight.length ∧
    (moment.chain.state = .matching → Settled journey.flight)

theorem noteMatch_of_settled (settled : Settled journey.flight) (session : Session) :
    journey.noteMatch session = journey := by
  obtain ⟨flight, left⟩ := journey
  cases flight with
  | nil => rfl
  | cons top rest =>
    have already : top.matched.or (some session) = top.matched := by
      obtain ⟨old, isOld⟩ := Option.isSome_iff_exists.mp (settled top rfl)
      rw [isOld, Option.some_or]
    simp only [noteMatch, already]

/-- **What is steady changes nothing.** -/
theorem Steady.after_eq (steady : journey.Steady events) : journey.after events = journey := by
  induction events with
  | nil => rfl
  | cons event events ih =>
    have later : journey.Steady events := fun moment isEvent => steady moment (List.mem_cons_of_mem _ isEvent)
    have unchanged : journey.see event = journey := by
      cases event with
      | passed moment =>
        obtain ⟨even, settled⟩ := steady moment List.mem_cons_self
        rw [see, if_neg (by omega), if_neg (by omega)]
        split
        · rename_i matching
          exact noteMatch_of_settled (settled matching) _
        · rfl
      | said | asked | ran => rfl
    rw [after_cons, unchanged]
    exact ih later

theorem Steady.append (start : journey.Steady early) (rest : journey.Steady late) :
    journey.Steady (early ++ late) := by
  intro moment isEvent
  rcases List.mem_append.mp isEvent with isEarly | isLate
  · exact start moment isEarly
  · exact rest moment isLate

/-- What a part of a run does to a journey: the visits that ended in it are complete, and they are those of
the units that were entered. -/
structure Journeyed (program : Program) (journey : Journey) (before : Running) (events : List Event)
    (ended : Running) (flight : List Visit) : Prop where
  flight : (journey.after events).flight = flight
  visits : ∃ visits entered, (journey.after events).ended = journey.ended ++ visits ∧
    ended.chain.trail = before.chain.trail ++ entered ∧ (visits.map Visit.name).Perm entered ∧
    ∀ visit ∈ visits, visit.Complete program

/-- **Two parts in a row** are one. -/
theorem Journeyed.append {first second : List Visit}
    (start : Journeyed program journey before early middle first)
    (rest : Journeyed program (journey.after early) middle late ended second) :
    Journeyed program journey before (early ++ late) ended second := by
  obtain ⟨visits, entered, isEnded, isTrail, perm, complete⟩ := start.visits
  obtain ⟨later, further, isLater, isFurther, permLater, completeLater⟩ := rest.visits
  refine ⟨by rw [after_append, rest.flight], visits ++ later, entered ++ further, ?_, ?_, ?_, ?_⟩
  · rw [after_append, isLater, isEnded, List.append_assoc]
  · rw [isFurther, isTrail, List.append_assoc]
  · rw [List.map_append]
    exact perm.append permLater
  · intro visit isVisit
    rcases List.mem_append.mp isVisit with isEarly | isLate
    · exact complete visit isEarly
    · exact completeLater visit isLate

theorem Steady.journeyed (steady : journey.Steady events) (program : Program)
    (sameTrail : ended.chain.trail = before.chain.trail) :
    Journeyed program journey before events ended journey.flight := by
  refine ⟨by rw [steady.after_eq], [], [], ?_, ?_, .nil, by simp⟩
  · rw [steady.after_eq, List.append_nil]
  · rw [sameTrail, List.append_nil]

/-- What is steady may come first. -/
theorem Steady.then {flight : List Visit} (steady : journey.Steady early)
    (sameTrail : middle.chain.trail = before.chain.trail)
    (rest : Journeyed program journey middle late ended flight) :
    Journeyed program journey before (early ++ late) ended flight := by
  refine (steady.journeyed program sameTrail).append ?_
  rw [steady.after_eq]
  exact rest

/-- What is steady may come last. -/
theorem Journeyed.then {flight : List Visit}
    (start : Journeyed program journey before early middle flight)
    (steady : (journey.after early).Steady late)
    (sameTrail : ended.chain.trail = middle.chain.trail) :
    Journeyed program journey before (early ++ late) ended flight :=
  start.flight ▸ start.append (steady.journeyed program sameTrail)

end Journey

/-! ### Journeys of tasks -/

section Journeys

open Journey Visit

variable {setting : Setting} {program : Program} {journey : Journey} {unit : PromptUnit}
  {before after : Running} {events : List Event} {ended : Running}

/-- Which units are in flight before a task. -/
def Task.Departs (program : Program) (flight : List Visit) : Task → Prop
  | enter unit => program.lookup unit.name = some unit ∧ Settled flight
  | choose unit => program.lookup unit.name = some unit ∧ flight.head? = some { name := unit.name }
  | act _ _ | call _ _ _ => Settled flight

/-- What a task changes in the units in flight. -/
def Task.Arrives (program : Program) (flight later : List Visit) : Task → Prop
  | enter unit => later = noteCalls [unit.name] flight
  | choose unit => ∃ visit, later = visit :: flight.tail ∧ visit.name = unit.name ∧ visit.Complete program
  | act _ action => later = noteCalls (action.targets.map program.nameOf) flight
  | call _ _ targets => later = noteCalls (targets.map program.nameOf) flight

theorem Resumes.trail_eq (resumes : Resumes before events after) :
    after.chain.trail = before.chain.trail := by
  cases resumes <;> rfl

theorem Aside.steady {α : Type} {result : Except Stop α} (aside : Aside before events after result)
    (even : before.chain.stack.length = journey.flight.length)
    (settled : before.chain.state = .matching → Settled journey.flight) : journey.Steady events := by
  intro moment isEvent
  have same := (aside.moments moment isEvent).2
  have sameStack : moment.chain.stack = before.chain.stack := (congrArg Chain.stack same :)
  have sameState : moment.chain.state = before.chain.state := (congrArg Chain.state same :)
  rw [sameStack, sameState]
  exact ⟨even, settled⟩

theorem Asks.moment_eq {direction : String} {result : Except Stop String}
    (asks : Asks setting unit direction before events result) {moment : Running}
    (isEvent : Event.passed moment ∈ events) : moment = before := by
  cases asks <;> simp_all

theorem Hears.steady {result : Except Stop Turn} (hears : Hears setting unit before events after result)
    (even : before.chain.stack.length = journey.flight.length)
    (settled : before.chain.state = .matching → Settled journey.flight) : journey.Steady events := by
  cases hears with
  | unresolved resolving => exact (aside_of_resolve resolving).steady even settled
  | unanswered resolving asking | answered resolving asking =>
    have aside := aside_of_resolve resolving
    refine (aside.steady even settled).append ?_
    intro moment isEvent
    rw [asking.moment_eq isEvent, aside.stack_eq, aside.state_eq]
    exact ⟨even, settled⟩

/-- When the unit on top has matched, only the units in flight count. -/
theorem Ledger.Quiet.steady {stack : List String} (quiet : Ledger.Quiet stack events)
    (even : stack.length = journey.flight.length) (settled : Settled journey.flight) :
    journey.Steady events := by
  intro moment isEvent
  have sameStack : moment.chain.stack = stack := quiet _ isEvent
  rw [sameStack]
  exact ⟨even, fun _ => settled⟩

theorem length_settle (onTop : journey.flight.head? = some { name := unit.name }) (session : Session) :
    (journey.settle unit.name session).flight.length = journey.flight.length := by
  obtain ⟨rest, isFlight⟩ := List.head?_eq_some_iff.mp onTop
  rw [settle, isFlight]
  rfl

theorem settled_settle (name : String) (session : Session) :
    Settled (journey.settle name session).flight := by
  intro visit isTop
  cases isTop
  rfl

/-- An entry is seen. -/
theorem Journey.after_entryEvents (even : before.chain.stack.length = journey.flight.length)
    (settled : Settled journey.flight) (ready : before.chain.state.mayGo .awaitingModel = true)
    (unit : PromptUnit) : journey.after (before.entryEvents unit) = journey.enter unit.name := by
  have first : journey.after [.passed before] = journey := by
    refine Steady.after_eq fun moment isEvent => ?_
    cases List.mem_singleton.mp isEvent
    exact ⟨even, fun _ => settled⟩
  have isEntry : journey.see (.passed (before.pushed unit.name)) = journey.enter unit.name := by
    have isStack : (before.pushed unit.name).chain.stack = before.chain.stack ++ [unit.name] := rfl
    rw [see, isStack, if_pos (by simp [even]), List.getLast?_concat]
    rfl
  have apart : before.chain.state ≠ .matching := by
    intro matching
    rw [matching] at ready
    cases ready
  have rest : (journey.enter unit.name).Steady (.passed ((before.pushed unit.name).noted unit.name)
      :: ((before.pushed unit.name).noted unit.name).moveEvents .awaitingModel) := by
    intro moment isEvent
    simp only [Running.moveEvents, List.mem_cons, Event.passed.injEq, reduceCtorEq, List.not_mem_nil,
      false_or, or_false] at isEvent
    rcases isEvent with rfl | rfl
    · exact ⟨by simp [Running.noted, Running.pushed, Chain.push, enter, even],
        fun wrong => absurd wrong apart⟩
    · refine ⟨by simp [Running.moved, Running.noted, Running.pushed, Chain.push, enter, even], ?_⟩
      intro wrong
      cases wrong
  rw [Running.entryEvents, after_cons, show journey.see (.passed before) = journey from first, after_cons,
    isEntry]
  exact rest.after_eq

/-- The first step to a match is seen. -/
theorem Journey.after_matching (even : before.chain.stack.length = journey.flight.length)
    (onTop : journey.flight.head? = some { name := unit.name }) :
    journey.after (before.moveEvents .matching) = journey.settle unit.name before.session := by
  obtain ⟨rest, isFlight⟩ := List.head?_eq_some_iff.mp onTop
  have unchanged : journey.see (.said (before.chain.stepLine .matching)) = journey := rfl
  have isStack : (before.moved .matching).chain.stack = before.chain.stack := rfl
  have matching : (before.moved .matching).chain.state = .matching := rfl
  rw [Running.moveEvents, after_cons, unchanged, after_cons, see, isStack, if_neg (by omega),
    if_neg (by omega), if_pos matching, noteMatch, settle, isFlight]
  rfl

/-- **An entry adds the visit of the unit**, which is complete when the unit is left. -/
theorem Journey.Journeyed.entered {visit : Visit}
    (even : before.chain.stack.length = journey.flight.length) (settled : Settled journey.flight)
    (ready : before.chain.state.mayGo .awaitingModel = true)
    (inner : Journeyed program (journey.enter unit.name) (before.entered unit) events ended
      (visit :: noteCalls [unit.name] journey.flight))
    (isStack : ended.chain.stack = before.chain.stack ++ [unit.name])
    (isName : visit.name = unit.name) (complete : visit.Complete program) :
    Journeyed program journey before (before.entryEvents unit ++ (events ++ [.passed ended.left])) ended.left
      (noteCalls [unit.name] journey.flight) := by
  obtain ⟨visits, entered, isEnded, isTrail, perm, allComplete⟩ := inner.visits
  have leaves : journey.after (before.entryEvents unit ++ (events ++ [.passed ended.left]))
      = ((journey.enter unit.name).after events).leave := by
    have isShorter : ended.left.chain.stack = before.chain.stack := by
      show ended.chain.stack.dropLast = _
      rw [isStack, List.dropLast_concat]
    rw [after_append, after_append, after_entryEvents even settled ready, after_cons, see, isShorter,
      inner.flight, if_neg (by simp [even]), if_pos (by simp [even])]
    rfl
  refine ⟨by rw [leaves, leave, inner.flight]; rfl, visits ++ [visit], unit.name :: entered, ?_, ?_, ?_, ?_⟩
  · rw [leaves, leave, inner.flight, isEnded, List.append_assoc]
    rfl
  · show ended.chain.trail = _
    rw [isTrail]
    show before.chain.trail ++ [unit.name] ++ entered = _
    rw [List.append_assoc, List.singleton_append]
  · rw [List.map_append]
    refine (List.perm_append_comm).trans ?_
    rw [List.map_singleton, isName]
    exact perm.cons unit.name
  · intro other isOther
    rcases List.mem_append.mp isOther with isInner | isOwn
    · exact allComplete other isInner
    · rw [List.mem_singleton.mp isOwn]
      exact complete

/-- The step to a match is made, by a unit that has not matched before. -/
theorem Journey.Journeyed.matching {flight : List Visit}
    (even : before.chain.stack.length = journey.flight.length)
    (onTop : journey.flight.head? = some { name := unit.name })
    (rest : Journeyed program (journey.settle unit.name before.session) (before.moved .matching) events ended
      flight) :
    Journeyed program journey before (before.moveEvents .matching ++ events) ended flight := by
  obtain ⟨visits, entered, isEnded, isTrail, perm, complete⟩ := rest.visits
  have isAfter := after_matching even onTop
  refine ⟨by rw [after_append, isAfter, rest.flight], visits, entered, ?_, isTrail, perm, complete⟩
  rw [after_append, isAfter, isEnded]
  rfl

/-- A call is a part of the journey when what happens in the unit is. -/
theorem Journey.Journeyed.framed {flight : List Visit} (target : PromptUnit)
    (even : before.chain.stack.length = journey.flight.length) (settled : Settled journey.flight)
    (inner : Journeyed program journey (target.outset before) events ended flight)
    (evenAfter : ended.chain.stack.length = flight.length) (settledAfter : Settled flight) :
    Journeyed program journey before (target.framed before events ended) (target.returned before ended)
      flight := by
  unfold PromptUnit.framed
  split
  · rename_i shared
    rw [PromptUnit.outset, if_pos shared] at inner
    rw [PromptUnit.returned, if_pos shared]
    exact inner
  · have opening : journey.Steady [.passed (target.outset before)] := by
      intro moment isEvent
      cases List.mem_singleton.mp isEvent
      rw [target.chain_outset]
      exact ⟨even, fun _ => settled⟩
    have sameTrail : (target.outset before).chain.trail = before.chain.trail := by rw [target.chain_outset]
    have opened := opening.then sameTrail inner
    refine opened.then ?_ (by rw [target.chain_returned])
    intro moment isEvent
    cases List.mem_singleton.mp isEvent
    rw [target.chain_returned, opened.flight]
    exact ⟨evenAfter, fun _ => settledAfter⟩

/-- **The journey of every task that is not stopped**: its visits are complete. -/
theorem TaskRun.journeyed {depth : Nat} {task : Task} {result : Except Stop Outcome}
    (run : TaskRun setting depth task before events after result) (keyed : setting.program.Keyed)
    (even : before.chain.stack.length = journey.flight.length)
    (departs : task.Departs setting.program journey.flight) {outcome : Outcome}
    (isOk : result = .ok outcome) :
    ∃ later, Journeyed setting.program journey before events after later ∧
      task.Arrives setting.program journey.flight later := by
  induction run generalizing journey outcome with
  | refused | unheard | undecided | halted | pipeFailed | unresolved | cyclic | stopped => cases isOk
  | @heard _ unit before middle ended early late turn _ _ _ ready hearing choosing chooses =>
    obtain ⟨isUnit, settled⟩ := departs
    have isStack : middle.chain.stack = before.chain.stack ++ [unit.name] := hearing.stack_eq
    have waits : middle.chain.state = .awaitingModel := (congrArg Chain.state hearing.aside.2 :)
    have sameTrail : (middle.told turn).chain.trail = (before.entered unit).chain.trail :=
      (congrArg Chain.trail hearing.aside.2 :)
    have evenInside : middle.chain.stack.length = (journey.enter unit.name).flight.length := by
      rw [isStack]
      simp [enter, even]
    have heard : (journey.enter unit.name).Steady (early ++ [.passed (middle.told turn)]) := by
      refine (hearing.steady (by rw [← hearing.stack_eq, evenInside]) nofun).append ?_
      intro moment isEvent
      cases List.mem_singleton.mp isEvent
      exact ⟨evenInside, fun matching => nomatch waits.symm.trans matching⟩
    obtain ⟨_, chosen, visit, rfl, isName, complete⟩ :=
      chooses evenInside ⟨isUnit, rfl⟩ isOk
    have inner := heard.then sameTrail chosen
    have isStackEnd : ended.chain.stack = before.chain.stack ++ [unit.name] :=
      choosing.stack_eq.trans isStack
    have whole := Journeyed.entered even settled ready inner isStackEnd isName complete
    simp only [List.append_assoc, List.singleton_append] at whole
    exact ⟨_, whole, rfl⟩
  | @unmatched _ unit before line _ chosen =>
    obtain ⟨isUnit, onTop⟩ := departs
    have quiet : Ledger.Quiet before.chain.stack [.passed (before.moved .matching), .said line] := by
      simp [Ledger.Quiet, Running.moved]
    have steady := quiet.steady (even.trans (length_settle onTop before.session).symm)
      (settled_settle _ _)
    refine ⟨_, Journeyed.matching even onTop (steady.journeyed _ rfl), _, rfl, rfl, ?_⟩
    simp [Visit.Complete, Visit.targets, isUnit, chosen, Except.toOption]
  | @matched _ unit before after found later result _ chosen _ acting =>
    obtain ⟨isUnit, onTop⟩ := departs
    have evenStill := even.trans (length_settle onTop before.session).symm
    have quiet : Ledger.Quiet before.chain.stack (.passed (before.moved .matching)
        :: .said ⟨.info, matchedMessage unit found⟩ :: .passed ((before.moved .matching).bound found)
        :: ((before.moved .matching).bound found).moveEvents .acting) := by
      simp [Ledger.Quiet, Running.moveEvents, Running.moved, Running.bound]
    obtain ⟨_, acted, rfl⟩ := acting evenStill (settled_settle _ _) isOk
    have sameTrail : (before.chosen found).chain.trail = (before.moved .matching).chain.trail := rfl
    have chooses := (quiet.steady evenStill (settled_settle _ _)).then sameTrail acted
    refine ⟨_, Journeyed.matching even onTop chooses, _, rfl, rfl, ?_⟩
    simp [Visit.Complete, Visit.targets, isUnit, chosen, Except.toOption]
  | @printed _ _ _ _ given before middle _ _ running =>
    have aside := aside_of_runCommand running
    have quiet : Ledger.Quiet before.chain.stack [.passed (middle.printed given)] := by
      simp [Ledger.Quiet, Running.printed, aside.stack_eq]
    refine ⟨_, ((aside.quiet.append quiet).steady even departs).journeyed _ ?_, ?_⟩
    · exact (congrArg Chain.trail aside.course :)
    · simp [Task.Arrives, Action.targets]
  | @failed _ _ _ text given before middle _ _ running =>
    have aside := aside_of_runCommand running
    have quiet : Ledger.Quiet before.chain.stack [.passed (middle.printed given),
        .said (Chain.warningLine (.commandFailed text given)), .passed { middle.printed given with
          chain := (middle.printed given).chain.warn (.commandFailed text given) }] := by
      simp [Ledger.Quiet, Running.printed, Chain.warn, aside.stack_eq]
    refine ⟨_, ((aside.quiet.append quiet).steady even departs).journeyed _ ?_, ?_⟩
    · exact (congrArg Chain.trail aside.course :)
    · simp [Task.Arrives, Action.targets]
  | @piped _ _ _ _ _ given before middle _ early later line _ _ running _ calling =>
    have aside := aside_of_runCommand running
    have isStack : (middle.piped (trimOutput given.stdout)).chain.stack = before.chain.stack := aside.stack_eq
    have quiet : Ledger.Quiet before.chain.stack [.passed (middle.piped (trimOutput given.stdout)),
        .said line] := by
      simp [Ledger.Quiet, isStack]
    obtain ⟨flight, called, arrives⟩ := calling (by rw [isStack, even]) departs isOk
    have sameTrail : (middle.piped (trimOutput given.stdout)).chain.trail = before.chain.trail :=
      (congrArg Chain.trail aside.course :)
    have whole := ((aside.quiet.append quiet).steady even departs).then sameTrail called
    rw [List.append_assoc] at whole
    exact ⟨flight, whole, arrives⟩
  | called _ calling => exact calling even departs isOk
  | finished => exact ⟨journey.flight, Steady.journeyed (by simp [Steady]) _ rfl, by simp [Task.Arrives]⟩
  | @next _ _ target _ _ name rest before ended middle _ inner steps later line _ _ found _ entered resuming _
      entering calls =>
    have isStack : ended.chain.stack = before.chain.stack := by
      rw [entered.stack_eq, target.chain_outset]
    obtain ⟨_, enters, rfl⟩ := entering (by rw [target.chain_outset, even])
      ⟨keyed.lookup_name found, departs⟩ rfl
    have settled : Settled (noteCalls [target.name] journey.flight) := Settled.noteCalls departs _
    have evenAfter : ended.chain.stack.length = (noteCalls [target.name] journey.flight).length := by
      rw [isStack, even, length_noteCalls]
    have framed := Journeyed.framed target even departs enters evenAfter settled
    have isReturned : (target.returned before ended).chain.stack = ended.chain.stack := by
      rw [target.chain_returned]
    have resumed := framed.then (resuming.quiet.steady (by rw [framed.flight, isReturned, evenAfter])
      (by rw [framed.flight]; exact settled)) resuming.trail_eq
    obtain ⟨_, called, rfl⟩ := calls (by
      rw [resumed.flight, resuming.stack_eq, isReturned, evenAfter]) (by
      rw [resumed.flight]
      exact settled) isOk
    have opening : Ledger.Quiet before.chain.stack [.passed before, .said line] := by simp [Ledger.Quiet]
    have whole := (opening.steady even departs).then rfl (resumed.append called)
    rw [List.append_assoc] at whole
    refine ⟨_, whole, ?_⟩
    have isName : setting.program.nameOf name = target.name := by
      rw [Program.nameOf, found]
      rfl
    rw [Task.Arrives, resumed.flight, noteCalls_noteCalls, List.map_cons, isName]
    rfl

end Journeys

end PromptChain
