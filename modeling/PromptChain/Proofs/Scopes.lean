/-
**No turn is lost, doubled or misplaced.**

A `Ledger` reads a run from outside. It follows the units in flight and gives each entry a scope: the first
unit has the root scope, a unit with history has the scope of its caller, and every other entry opens a scope
of its own (`Ledger.enter`). Each answer of the model is noted under the scope of the unit that asked.

* `Ledger.Served`: what a part of a run does to a ledger. The requests in it send what the ledger says, the
  units in flight are the same again at its end, the turns of the session are those of one scope, and no other
  scope that was there has changed. Parts in a row are one part (`Served.trans`).
* `Served.entered`, `Served.framed`: an entry is served in the scope that it opens, and a call in the scope of
  the caller.
* `TaskRun.served`: **every task serves the ledger**, by induction over the rules.

Main statement: `requests_send_scope_turns`.
-/

import PromptChain.Proofs.Isolation
import PromptChain.Proofs.StateMachine

namespace PromptChain

/-! ### Ledgers -/

/-- Every unit of a program stands under its own key. -/
def Program.Keyed (program : Program) : Prop :=
  ∀ key unit, Assoc.get? program.units key = some unit → unit.key = key

theorem Program.Keyed.lookup_name {program : Program} (keyed : program.Keyed) {name : String}
    {unit : PromptUnit} (found : program.lookup name = some unit) :
    program.lookup unit.name = some unit := by
  have own : nameKey unit.name = nameKey name := keyed _ _ found
  rw [Program.lookup, own]
  exact found

theorem Program.Tidy.keyed {program : Program} (tidy : program.Tidy) : program.Keyed :=
  fun _ _ found => tidy.own found

/-- What is known of the scopes of a run so far. -/
structure Ledger where
  /-- The units in flight, each with its scope, the last one on top. -/
  flight : List (String × Nat) := []
  /-- How many scopes have been opened, the root scope apart. -/
  opened : Nat := 0
  /-- The turns of the answers so far, each with the scope of the unit that asked. -/
  turns : List (Nat × Turn) := []

namespace Ledger

/-- The scope of the unit that a chain starts with. -/
def rootScope : Nat := 0

/-- The scope of the unit on top. -/
def scope (ledger : Ledger) : Nat := ledger.flight.getLast?.elim rootScope Prod.snd

/-- A unit is entered: in the root scope if it is the first, in the scope of its caller if it has history, and
else in a new one. -/
def enter (program : Program) (ledger : Ledger) (name : String) : Ledger :=
  if ledger.flight.isEmpty || (program.lookup name).any PromptUnit.history then
    { ledger with flight := ledger.flight ++ [(name, ledger.scope)] }
  else
    { ledger with
      flight := ledger.flight ++ [(name, ledger.opened + 1)]
      opened := ledger.opened + 1 }

/-- An answer is noted under the scope of the unit on top. -/
def note (ledger : Ledger) (turn : Turn) : Ledger :=
  { ledger with turns := ledger.turns ++ [(ledger.scope, turn)] }

/-- What an event changes: a stack that has grown shows an entry, one that has shrunk an exit. -/
def see (program : Program) (ledger : Ledger) : Event → Ledger
  | .passed moment =>
    if ledger.flight.length < moment.chain.stack.length then
      moment.chain.stack.getLast?.elim ledger (ledger.enter program)
    else { ledger with flight := ledger.flight.take moment.chain.stack.length }
  | .asked request (some (.answer text)) => ledger.note ⟨request.direction, text, some request.unit⟩
  | _ => ledger

/-- The ledger after a part of a run. -/
def after (program : Program) (ledger : Ledger) (events : List Event) : Ledger :=
  events.foldl (see program) ledger

/-- The turns that were noted in a scope. -/
def turnsIn (ledger : Ledger) (scope : Nat) : List Turn :=
  (ledger.turns.filter fun entry => entry.1 == scope).map Prod.snd

/-- The conversation of a scope; that of the root scope goes on from some first turns. -/
def past (first : List Turn) (ledger : Ledger) (scope : Nat) : List Turn :=
  (if scope = rootScope then first else []) ++ ledger.turnsIn scope

/-- A request is that of the unit on top, and sends the conversation of its scope, or nothing if the unit has
no history. -/
def Sends (program : Program) (first : List Turn) (ledger : Ledger) : Event → Prop
  | .asked request _ => ∃ callers unit, ledger.flight = callers ++ [(unit.name, ledger.scope)] ∧
    program.lookup request.unit = some unit ∧ request.unit = unit.name ∧
    request.history = if unit.history then ledger.past first ledger.scope else []
  | _ => True

/-- Every request in a part of a run sends what the ledger says at that moment. -/
abbrev AllSend (program : Program) (first : List Turn) (ledger : Ledger) (events : List Event) : Prop :=
  Throughout (see program) (Sends program first) ledger events

/-- A ledger has the units in flight, and knows of no scope that was not opened. -/
structure Sound (ledger : Ledger) (stack : List String) : Prop where
  names : ledger.flight.map Prod.fst = stack
  inFlight : ∀ entry ∈ ledger.flight, entry.2 ≤ ledger.opened
  noted : ∀ entry ∈ ledger.turns, entry.1 ≤ ledger.opened

variable {program : Program} {first : List Turn} {ledger : Ledger} {stack : List String}
  {name : String} {scope : Nat} {events early late : List Event} {ended : Running}

/-! ### Small facts -/

@[simp]
theorem after_nil : ledger.after program [] = ledger := rfl

@[simp]
theorem after_cons (event : Event) (events : List Event) :
    ledger.after program (event :: events) = (ledger.see program event).after program events := rfl

@[simp]
theorem after_append (early late : List Event) :
    ledger.after program (early ++ late) = (ledger.after program early).after program late :=
  List.foldl_append

theorem sound_empty : Sound {} [] := ⟨rfl, by simp, by simp⟩

theorem past_empty : past first {} rootScope = first := List.append_nil _

theorem Sound.length_eq (sound : ledger.Sound stack) : ledger.flight.length = stack.length := by
  rw [← sound.names, List.length_map]

/-- A state with the same units in flight changes nothing. -/
theorem Sound.see_passed (sound : ledger.Sound stack) {moment : Running}
    (same : moment.chain.stack = stack) : ledger.see program (.passed moment) = ledger := by
  have even : ledger.flight.length = moment.chain.stack.length := same ▸ sound.length_eq
  rw [see, if_neg (by omega), ← even, List.take_length]

/-- A state with one more unit in flight is an entry. -/
theorem Sound.see_pushed (sound : ledger.Sound stack) {moment : Running}
    (pushed : moment.chain.stack = stack ++ [name]) :
    ledger.see program (.passed moment) = ledger.enter program name := by
  have grown : ledger.flight.length < moment.chain.stack.length := by
    rw [pushed, sound.length_eq, List.length_append]
    exact Nat.lt_add_one _
  rw [see, if_pos grown, pushed, List.getLast?_concat]
  rfl

theorem Sound.scope_le (sound : ledger.Sound stack) : ledger.scope ≤ ledger.opened := by
  unfold scope
  cases top : ledger.flight.getLast? with
  | none => exact Nat.zero_le _
  | some entry => exact sound.inFlight entry (List.mem_of_getLast? top)

theorem turnsIn_note (turn : Turn) (scope : Nat) :
    (ledger.note turn).turnsIn scope
      = if ledger.scope = scope then ledger.turnsIn scope ++ [turn] else ledger.turnsIn scope := by
  unfold turnsIn note
  rw [List.filter_append, List.map_append]
  by_cases same : ledger.scope = scope
  · rw [if_pos same, List.filter_cons_of_pos (by simpa using same)]
    rfl
  · rw [if_neg same, List.filter_cons_of_neg (by simpa using same)]
    simp

theorem Sound.note (sound : ledger.Sound stack) (turn : Turn) : (ledger.note turn).Sound stack where
  names := sound.names
  inFlight := sound.inFlight
  noted := by
    intro entry isNoted
    rcases List.mem_append.mp isNoted with old | new
    · exact sound.noted entry old
    · rw [List.mem_singleton.mp new]
      exact sound.scope_le

/-- A scope that was not opened has no turns. -/
theorem Sound.turnsIn_eq_nil (sound : ledger.Sound stack) (unopened : ledger.opened < scope) :
    ledger.turnsIn scope = [] := by
  unfold turnsIn
  rw [List.map_eq_nil_iff, List.filter_eq_nil_iff]
  intro entry isNoted
  have bound := sound.noted entry isNoted
  simp only [beq_iff_eq]
  omega

/-! ### Entries -/

/-- What an entry leaves as it was. -/
theorem enter_frame (program : Program) (ledger : Ledger) (name : String) :
    (ledger.enter program name).turns = ledger.turns ∧
    ledger.opened ≤ (ledger.enter program name).opened ∧
    (ledger.enter program name).flight
      = ledger.flight ++ [(name, (ledger.enter program name).scope)] := by
  unfold enter
  split
  · exact ⟨rfl, le_rfl, by simp [scope]⟩
  · exact ⟨rfl, Nat.le_succ _, by simp [scope]⟩

theorem Sound.enter (sound : ledger.Sound stack) (name : String) :
    (ledger.enter program name).Sound (stack ++ [name]) := by
  have names : ledger.flight.map Prod.fst ++ [name] = stack ++ [name] := by rw [sound.names]
  unfold Ledger.enter
  split
  · refine ⟨by simpa using names, ?_, sound.noted⟩
    intro entry isFlight
    rcases List.mem_append.mp isFlight with old | new
    · exact sound.inFlight entry old
    · rw [List.mem_singleton.mp new]
      exact sound.scope_le
  · refine ⟨by simpa using names, ?_, fun entry isNoted => (sound.noted entry isNoted).trans (Nat.le_succ _)⟩
    intro entry isFlight
    rcases List.mem_append.mp isFlight with old | new
    · exact (sound.inFlight entry old).trans (Nat.le_succ _)
    · rw [List.mem_singleton.mp new]

theorem turnsIn_enter (name : String) (scope : Nat) :
    (ledger.enter program name).turnsIn scope = ledger.turnsIn scope := by
  unfold turnsIn
  rw [(enter_frame program ledger name).1]

theorem past_enter (program : Program) (name : String) (scope : Nat) :
    (ledger.enter program name).past first scope = ledger.past first scope := by
  rw [past, past, turnsIn_enter]

/-- A unit with history is entered in the scope of its caller. -/
theorem scope_enter_of_history {unit : PromptUnit} (found : program.lookup name = some unit)
    (shared : unit.history = true) : (ledger.enter program name).scope = ledger.scope := by
  unfold enter
  rw [found, Option.any_some, shared, Bool.or_true, if_pos rfl]
  simp [scope]

/-- A unit without history that is called is entered in a new scope. -/
theorem scope_enter_of_alone {unit : PromptUnit} (found : program.lookup name = some unit)
    (alone : unit.history = false) (called : ledger.flight ≠ []) :
    (ledger.enter program name).scope = ledger.opened + 1 := by
  unfold enter
  rw [found, Option.any_some, alone, Bool.or_false, if_neg (by simpa using called)]
  simp [scope]

/-! ### Parts of a run -/

/-- What a part of a run does to a ledger, in a scope. -/
structure Served (program : Program) (first : List Turn) (scope : Nat) (ledger : Ledger)
    (events : List Event) (ended : Running) : Prop where
  sent : ledger.AllSend program first events
  sound : (ledger.after program events).Sound ended.chain.stack
  flight : (ledger.after program events).flight = ledger.flight
  opened : ledger.opened ≤ (ledger.after program events).opened
  turns : ended.session.turns = (ledger.after program events).past first scope
  others : ∀ other ≤ ledger.opened, other ≠ scope →
    (ledger.after program events).turnsIn other = ledger.turnsIn other

theorem Served.scope_eq (served : Served program first scope ledger events ended) :
    (ledger.after program events).scope = ledger.scope := by
  unfold Ledger.scope
  rw [served.flight]

/-- **Two parts in a row** are one, in the same scope. -/
theorem Served.trans {middle : Running} (start : Served program first scope ledger early middle)
    (rest : Served program first scope (ledger.after program early) late ended) :
    Served program first scope ledger (early ++ late) ended where
  sent := throughout_append.mpr ⟨start.sent, rest.sent⟩
  sound := by
    rw [after_append]
    exact rest.sound
  flight := by
    rw [after_append]
    exact rest.flight.trans start.flight
  opened := by
    rw [after_append]
    exact start.opened.trans rest.opened
  turns := by
    rw [after_append]
    exact rest.turns
  others := by
    intro other known apart
    rw [after_append, rest.others other (known.trans start.opened) apart]
    exact start.others other known apart

/-- Nothing is asked, and the units in flight are the same at every moment. -/
def Quiet (stack : List String) (events : List Event) : Prop :=
  ∀ event ∈ events, match event with
    | .passed moment => moment.chain.stack = stack
    | .said _ => True
    | .asked _ _ => False
    | .ran _ _ => True

theorem Quiet.append (start : Quiet stack early) (rest : Quiet stack late) :
    Quiet stack (early ++ late) := by
  intro event isEvent
  rcases List.mem_append.mp isEvent with isEarly | isLate
  · exact start event isEarly
  · exact rest event isLate

/-- **What is quiet leaves a ledger alone.** -/
theorem Sound.after_eq (sound : ledger.Sound stack) (program : Program) (quiet : Quiet stack events) :
    ledger.after program events = ledger := by
  induction events with
  | nil => rfl
  | cons event events ih =>
    obtain ⟨here, later⟩ := List.forall_mem_cons.mp quiet
    have unchanged : ledger.see program event = ledger := by
      cases event with
      | passed moment => exact sound.see_passed here
      | said line => rfl
      | asked request reply => exact here.elim
      | ran request reply => rfl
    rw [after_cons, unchanged]
    exact ih later

theorem Quiet.allSend (quiet : Quiet stack events) :
    ledger.AllSend program first events := by
  refine throughout_of_forall fun event isEvent _ => ?_
  cases event with
  | passed | said | ran => trivial
  | asked => exact (quiet _ isEvent).elim

theorem Sound.served (sound : ledger.Sound stack) (quiet : Quiet stack events)
    (same : ended.chain.stack = stack) (turns : ended.session.turns = ledger.past first scope) :
    Served program first scope ledger events ended := by
  have unchanged := sound.after_eq program quiet
  refine ⟨quiet.allSend, ?_, ?_, ?_, ?_, ?_⟩
  all_goals rw [unchanged]
  · rw [same]
    exact sound
  · exact turns
  · exact fun _ _ _ => rfl

/-- What is quiet may come first. -/
theorem Served.after_quiet (quiet : Quiet stack early) (sound : ledger.Sound stack)
    (rest : Served program first scope ledger late ended) :
    Served program first scope ledger (early ++ late) ended := by
  have isAfter : ledger.after program (early ++ late) = ledger.after program late := by
    rw [after_append, sound.after_eq program quiet]
  obtain ⟨sent, sound', flight, opened, turns, others⟩ := rest
  refine ⟨throughout_append.mpr ⟨quiet.allSend, ?_⟩, ?_, ?_, ?_, ?_, ?_⟩
  · rw [← after, sound.after_eq program quiet]
    exact sent
  all_goals rw [isAfter]
  all_goals assumption

/-- What is quiet may come last. -/
theorem Served.before_quiet {middle : Running} (start : Served program first scope ledger early middle)
    (quiet : Quiet middle.chain.stack late) (sameStack : ended.chain.stack = middle.chain.stack)
    (sameTurns : ended.session.turns = middle.session.turns) :
    Served program first scope ledger (early ++ late) ended :=
  start.trans (start.sound.served quiet sameStack (sameTurns.trans start.turns))

/-- The turns of the scope on top are untouched by what is served in a new scope. -/
theorem Served.back (served : Served program first scope ledger events ended) (sound : ledger.Sound stack)
    (isNew : ledger.opened < scope) {turns : List Turn} (were : turns = ledger.past first ledger.scope) :
    Served program first ledger.scope ledger events
      { ended with session := { ended.session with turns } } where
  sent := served.sent
  sound := served.sound
  flight := served.flight
  opened := served.opened
  turns := by
    have bound := sound.scope_le
    rw [past, served.others ledger.scope bound (by omega)]
    exact were
  others := fun other known _ => served.others other known (by omega)

end Ledger

/-! ### Rules of tasks -/

section Tasks

open Ledger

variable {setting : Setting} {first : List Turn} {ledger : Ledger} {unit : PromptUnit}
  {before after : Running} {events : List Event}
  {program : Program} {callers : List (String × Nat)}

theorem Aside.quiet {α : Type} {result : Except Stop α} (aside : Aside before events after result) :
    Quiet before.chain.stack events := by
  intro event isEvent
  cases event with
  | passed moment => exact (congrArg Chain.stack (aside.moments moment isEvent).2 :)
  | said line => trivial
  | asked request reply => exact aside.unasked request reply isEvent
  | ran request reply => trivial

theorem Resumes.quiet (resumes : Resumes before events after) : Quiet before.chain.stack events := by
  cases resumes with
  | stays _ => simp [Quiet]
  | goes _ => simp [Quiet, Running.moveEvents, Running.moved]

theorem Resumes.session_eq (resumes : Resumes before events after) : after.session = before.session := by
  cases resumes <;> rfl

/-- The unit on top asks: the request sends what the ledger says, and an answer is noted. -/
theorem Asks.served {direction : String} {result : Except Stop String}
    (asks : Asks setting unit direction before events result) (found : program.lookup unit.name = some unit)
    (sound : ledger.Sound before.chain.stack) (onTop : ledger.flight = callers ++ [(unit.name, ledger.scope)])
    (turns : before.session.turns = ledger.past first ledger.scope) :
    ledger.AllSend program first events ∧
      ledger.after program events
        = result.toOption.elim ledger fun answer => ledger.note ⟨direction, answer, some unit.name⟩ := by
  have unchanged : ledger.see program (.passed before) = ledger := sound.see_passed rfl
  have sends : ∀ reply, ledger.Sends program first
      (.asked ⟨unit.name, direction, before.session.history unit.history⟩ reply) :=
    fun reply => ⟨callers, unit, onTop, found, rfl, by rw [← turns]; rfl⟩
  cases asks with
  | noModel => exact ⟨throughout_nil, rfl⟩
  | answered | cancelled | unavailable | late | crashed =>
    simp only [throughout_cons, after_cons, unchanged]
    exact ⟨⟨trivial, trivial, sends _, by simp [see, Sends]⟩, rfl⟩

/-- A unit on top comes to an answer, which is noted. -/
theorem Hears.noted {result : Except Stop Turn} (hears : Hears setting unit before events after result)
    (found : program.lookup unit.name = some unit) (sound : ledger.Sound before.chain.stack)
    (onTop : ledger.flight = callers ++ [(unit.name, ledger.scope)])
    (turns : before.session.turns = ledger.past first ledger.scope) :
    ledger.AllSend program first events ∧
      ledger.after program events = result.toOption.elim ledger ledger.note := by
  cases hears with
  | unresolved resolving =>
    have quiet := (aside_of_resolve resolving).quiet
    exact ⟨quiet.allSend, sound.after_eq program quiet⟩
  | unanswered resolving asking | answered resolving asking =>
    have aside := aside_of_resolve resolving
    have unchanged := sound.after_eq program aside.quiet
    obtain ⟨sent, noted⟩ := asking.served found (aside.stack_eq ▸ sound) onTop (aside.session ▸ turns)
    refine ⟨throughout_append.mpr ⟨aside.quiet.allSend, ?_⟩, ?_⟩
    · rw [← Ledger.after, unchanged]
      exact sent
    · rw [after_append, unchanged, noted]
      rfl

/-- A unit on top that comes to no answer leaves the ledger as it was. -/
theorem Hears.served_unheard {reason : Stop} (hears : Hears setting unit before events after (.error reason))
    (found : program.lookup unit.name = some unit) (sound : ledger.Sound before.chain.stack)
    (onTop : ledger.flight = callers ++ [(unit.name, ledger.scope)])
    (turns : before.session.turns = ledger.past first ledger.scope) :
    Served program first ledger.scope ledger events after := by
  obtain ⟨sent, unchanged⟩ := hears.noted found sound onTop turns
  obtain ⟨sameSession, sameCourse⟩ := hears.aside
  have sameStack : after.chain.stack = before.chain.stack := (congrArg Chain.stack sameCourse :)
  refine ⟨sent, ?_, ?_, ?_, ?_, ?_⟩
  all_goals rw [unchanged]
  · rw [sameStack]
    exact sound
  · rfl
  · exact le_rfl
  · rw [sameSession]
    exact turns
  · exact fun _ _ _ => rfl

/-- A unit on top that comes to an answer has one more turn in its scope. -/
theorem Hears.served_heard {turn : Turn} (hears : Hears setting unit before events after (.ok turn))
    (found : program.lookup unit.name = some unit) (sound : ledger.Sound before.chain.stack)
    (onTop : ledger.flight = callers ++ [(unit.name, ledger.scope)])
    (turns : before.session.turns = ledger.past first ledger.scope) :
    Served program first ledger.scope ledger (events ++ [.passed (after.told turn)]) (after.told turn) := by
  obtain ⟨sent, isNoted⟩ := hears.noted found sound onTop turns
  obtain ⟨sameSession, sameCourse⟩ := hears.aside
  have sameStack : (after.told turn).chain.stack = before.chain.stack :=
    (congrArg Chain.stack sameCourse :)
  have isAfter : ledger.after program (events ++ [.passed (after.told turn)]) = ledger.note turn := by
    rw [after_append, isNoted]
    exact (sound.note turn).see_passed sameStack
  refine ⟨throughout_append.mpr ⟨sent, by simp [Sends]⟩, ?_, ?_, ?_, ?_, ?_⟩
  all_goals rw [isAfter]
  · rw [sameStack]
    exact sound.note turn
  · rfl
  · exact le_rfl
  · show after.session.turns ++ [turn] = _
    rw [sameSession, turns, past, past, turnsIn_note, if_pos rfl, List.append_assoc]
  · intro other _ apart
    rw [turnsIn_note, if_neg apart.symm]

/-- The events of an entry show the entry. -/
theorem Ledger.Sound.after_entryEvents (sound : ledger.Sound before.chain.stack) (unit : PromptUnit) :
    ledger.after program (before.entryEvents unit) = ledger.enter program unit.name := by
  have entered : (ledger.enter program unit.name).Sound (before.pushed unit.name).chain.stack :=
    sound.enter unit.name
  have quiet : Quiet (before.pushed unit.name).chain.stack
      (.passed ((before.pushed unit.name).noted unit.name)
        :: ((before.pushed unit.name).noted unit.name).moveEvents .awaitingModel) := by
    simp [Quiet, Running.moveEvents, Running.moved, Running.noted]
  rw [Running.entryEvents, after_cons, sound.see_passed rfl, after_cons, sound.see_pushed rfl]
  exact entered.after_eq program quiet

/-- **An entry is served in the scope that it has**, when what the unit does is served there. -/
theorem Ledger.Served.entered {ended : Running} (sound : ledger.Sound before.chain.stack)
    (inner : Served program first (ledger.enter program unit.name).scope (ledger.enter program unit.name)
      events ended) :
    Served program first (ledger.enter program unit.name).scope ledger
      (before.entryEvents unit ++ (events ++ [.passed ended.left])) ended.left := by
  obtain ⟨sameTurns, moreOpened, isFlight⟩ := enter_frame program ledger unit.name
  have isStack : ended.chain.stack = before.chain.stack ++ [unit.name] := by
    rw [← inner.sound.names, inner.flight, (sound.enter unit.name).names]
  -- Leaving takes the unit from the top, and nothing else.
  have leaves : ((ledger.enter program unit.name).after program events).see program (.passed ended.left)
      = { (ledger.enter program unit.name).after program events with flight := ledger.flight } := by
    have isShorter : ended.left.chain.stack = before.chain.stack := by
      show ended.chain.stack.dropLast = before.chain.stack
      rw [isStack, List.dropLast_concat]
    rw [see, isShorter, inner.flight, isFlight, ← sound.length_eq, List.take_left]
    simp
  have isAfter : ledger.after program (before.entryEvents unit ++ (events ++ [.passed ended.left]))
      = { (ledger.enter program unit.name).after program events with flight := ledger.flight } := by
    rw [after_append, after_append, sound.after_entryEvents, after_cons, leaves, after_nil]
  have sent : ledger.AllSend program first
      (before.entryEvents unit ++ (events ++ [.passed ended.left])) := by
    refine throughout_append.mpr ⟨?_, ?_⟩
    · simp [Running.entryEvents, Running.moveEvents, Sends]
    · rw [← Ledger.after, sound.after_entryEvents]
      exact throughout_append.mpr ⟨inner.sent, by simp [Sends]⟩
  refine ⟨sent, ?_, ?_, ?_, ?_, ?_⟩
  all_goals rw [isAfter]
  · refine ⟨?_, fun entry isEntry => ?_, inner.sound.noted⟩
    · show ledger.flight.map Prod.fst = ended.chain.stack.dropLast
      rw [sound.names, isStack, List.dropLast_concat]
    · exact ((sound.inFlight entry isEntry).trans moreOpened).trans inner.opened
  · exact moreOpened.trans inner.opened
  · exact inner.turns
  · intro other known apart
    exact (inner.others other (known.trans moreOpened) apart).trans (turnsIn_enter _ _)

/-- **A call is served in the scope of the caller**, when the entry is served in the scope that it has. -/
theorem Ledger.Served.framed {target : PromptUnit} {ended : Running} (keyed : program.Keyed) {name : String}
    (called : program.lookup name = some target) (line : LogLine) (sound : ledger.Sound before.chain.stack)
    (inFlight : before.chain.stack ≠ []) (turns : before.session.turns = ledger.past first ledger.scope)
    (entry : ledger.Sound (target.outset before).chain.stack → program.lookup target.name = some target →
      (target.outset before).session.turns = ledger.past first (ledger.enter program target.name).scope →
      Served program first (ledger.enter program target.name).scope ledger events ended) :
    Served program first ledger.scope ledger
      ([.passed before, .said line] ++ target.framed before events ended) (target.returned before ended) := by
  have found := keyed.lookup_name called
  have entry := entry (by rw [target.chain_outset]; exact sound) found
  have calling : Quiet before.chain.stack [.passed before, .said line] := by simp [Quiet]
  refine Served.after_quiet calling sound ?_
  cases alone : target.history with
  | true =>
    have isScope : (ledger.enter program target.name).scope = ledger.scope :=
      scope_enter_of_history found alone
    rw [isScope] at entry
    rw [PromptUnit.framed, PromptUnit.returned, alone, if_pos rfl, if_pos rfl]
    refine entry ?_
    rw [PromptUnit.outset, alone, if_pos rfl]
    exact turns
  | false =>
    have someFlight : ledger.flight ≠ [] := by
      intro isEmpty
      rw [← sound.names, isEmpty] at inFlight
      exact inFlight rfl
    have isScope : (ledger.enter program target.name).scope = ledger.opened + 1 :=
      scope_enter_of_alone found alone someFlight
    have served : Served program first (ledger.opened + 1) ledger events ended := by
      rw [isScope] at entry
      refine entry ?_
      rw [PromptUnit.outset, alone, Ledger.past, sound.turnsIn_eq_nil (Nat.lt_succ_self _)]
      rfl
    -- The turns of the caller come back, and the ledger has kept them under its scope.
    have returned : Served program first ledger.scope ledger events (target.returned before ended) := by
      rw [PromptUnit.returned, alone]
      exact served.back sound (Nat.lt_succ_self _) turns
    have opening : Quiet before.chain.stack [.passed (target.outset before)] := by simp [Quiet]
    have closing : Quiet (target.returned before ended).chain.stack
        [.passed (target.returned before ended)] := by simp [Quiet]
    have whole := (returned.before_quiet closing rfl rfl).after_quiet opening sound
    rw [PromptUnit.framed, alone]
    exact whole

/-- The scope of a task: that which a unit to enter will have, or else that of the unit on top. -/
def Task.scope (program : Program) (ledger : Ledger) : Task → Nat
  | enter unit => (ledger.enter program unit.name).scope
  | choose _ | act _ _ | call _ _ _ => ledger.scope

/-- A unit to enter is found under its name; other tasks are those of a unit in flight. -/
def Task.Placed (program : Program) (stack : List String) : Task → Prop
  | enter unit => program.lookup unit.name = some unit
  | choose _ | act _ _ | call _ _ _ => stack ≠ []

/-- **Every task serves the ledger**, in its scope. -/
theorem TaskRun.served {depth : Nat} {task : Task} {result : Except Stop Outcome}
    (run : TaskRun setting depth task before events after result) (keyed : setting.program.Keyed)
    (sound : ledger.Sound before.chain.stack) (placed : task.Placed setting.program before.chain.stack)
    (turns : before.session.turns = ledger.past first (task.scope setting.program ledger)) :
    Served setting.program first (task.scope setting.program ledger) ledger events after := by
  induction run generalizing ledger with
  | refused | cyclic => exact sound.served (by simp [Quiet]) rfl turns
  | finished | unresolved => exact sound.served (by simp [Quiet]) rfl turns
  | @unheard _ unit before ended events reason _ _ _ hearing =>
    obtain ⟨_, _, onTop⟩ := enter_frame setting.program ledger unit.name
    have starts := turns.trans (past_enter setting.program unit.name _).symm
    exact (hearing.served_unheard placed (sound.enter unit.name) onTop starts).entered sound
  | @heard _ unit before middle ended early late turn _ _ _ _ hearing _ choosing =>
    obtain ⟨_, _, onTop⟩ := enter_frame setting.program ledger unit.name
    have starts := turns.trans (past_enter setting.program unit.name _).symm
    have told := hearing.served_heard placed (sound.enter unit.name) onTop starts
    have isScope := told.scope_eq
    have someFlight : (middle.told turn).chain.stack ≠ [] := by
      rw [← told.sound.names, told.flight, onTop]
      simp
    have chosen := choosing told.sound someFlight (by rw [Task.scope, isScope]; exact told.turns)
    rw [Task.scope, isScope] at chosen
    have whole := (told.trans chosen).entered sound
    simp only [List.append_assoc, List.singleton_append] at whole
    exact whole
  | undecided | unmatched =>
    exact sound.served (by simp [Quiet, Running.moveEvents, Running.moved]) rfl turns
  | matched _ _ _ acting =>
    refine (acting sound placed turns).after_quiet ?_ sound
    simp [Quiet, Running.choiceEvents, Running.moveEvents, Running.moved, Running.bound]
  | halted _ running | pipeFailed _ running =>
    have aside := aside_of_runCommand running
    exact sound.served aside.quiet aside.stack_eq (aside.session ▸ turns)
  | printed _ running | failed _ running =>
    have aside := aside_of_runCommand running
    have quiet := aside.quiet
    refine sound.served (quiet.append ?_) aside.stack_eq (aside.session ▸ turns)
    simp [Quiet, Running.printed, Chain.warn, aside.stack_eq]
  | @piped _ _ _ _ _ given before middle _ early _ line _ _ running _ calling =>
    have aside := aside_of_runCommand running
    have piped : (middle.piped (trimOutput given.stdout)).session.turns = ledger.past first ledger.scope := by
      show middle.session.turns = _
      rw [aside.session]
      exact turns
    have isStack : (middle.piped (trimOutput given.stdout)).chain.stack = before.chain.stack := aside.stack_eq
    have served := calling (isStack ▸ sound) (isStack ▸ placed) piped
    have silent : Quiet before.chain.stack (early ++ [.passed (middle.piped (trimOutput given.stdout)),
        .said line]) := by
      refine aside.quiet.append ?_
      simp [Quiet, isStack]
    have whole := served.after_quiet silent sound
    rw [List.append_assoc] at whole
    exact whole
  | called _ calling => exact calling sound placed turns
  | stopped _ found _ _ entering => exact Served.framed keyed found _ sound placed turns entering
  | @next _ _ target _ _ _ _ before ended middle _ _ steps _ line _ _ found _ _ resuming _ entering calls =>
    have call := Served.framed keyed found line sound placed turns entering
    have resumed := call.before_quiet resuming.quiet resuming.stack_eq
      (congrArg Session.turns resuming.session_eq)
    have isStack : middle.chain.stack = before.chain.stack := by
      rw [← resumed.sound.names, resumed.flight, sound.names]
    have later := calls resumed.sound (isStack ▸ placed)
      (by rw [Task.scope, resumed.scope_eq]; exact resumed.turns)
    rw [Task.scope, resumed.scope_eq] at later
    have whole := resumed.trans later
    rw [List.append_assoc] at whole
    exact whole

end Tasks

theorem turns_startSession (user : String) (session : Option Session) :
    (startSession user session).turns = session.elim [] Session.turns := by
  cases session with
  | none => rfl
  | some session =>
    rw [startSession]
    split <;> rfl

/-- **No turn is lost, doubled or misplaced.** In the chain of every program whose units stand under their
own keys, from every session and with every host, also one that breaks off or fails:

* Every request is that of the unit on top. It sends nothing if that unit has no history, and else the turns
  of its scope so far, behind those of the session that was given if this is the root scope.
* At the end, however the chain ends, the session has the turns that were given, and behind them one for
  each answer of the root scope. -/
theorem requests_send_scope_turns (setting : Setting) (keyed : setting.program.Keyed) (name user : String)
    (session : Option Session) {σ : Type} (host : Query.Host σ) (state : σ) :
    let query := invoke setting name user session
    let events := query.trace host state
    let first := session.elim [] Session.turns
    Ledger.AllSend setting.program first {} events ∧
      (query.perform host state).1.2.turns
        = first ++ (Ledger.after setting.program {} events).turnsIn Ledger.rootScope := by
  intro query events first
  obtain ⟨performed, traced⟩ := perform_invoke setting name user session host state
  let start := startSession user session
  let ended := ((runNamed setting name start).perform host state).1
  let inner := (runNamed setting name start).trace host state
  have starts : start.turns = first := turns_startSession user session
  have served : Ledger.Served setting.program first Ledger.rootScope {} inner ended.1 := by
    have runs := (runNamed setting name start).runs_trace host state
    rcases runs_runNamed runs with ⟨_, noEvents, isEnd, _⟩ | ⟨unit, found, run⟩
    · have quiet : Ledger.Quiet [] inner := by
        rw [show inner = [] from noEvents]
        exact fun _ isEvent => nomatch isEvent
      rw [show ended.1 = _ from isEnd]
      exact Ledger.sound_empty.served quiet rfl (starts.trans Ledger.past_empty.symm)
    · exact run.served keyed Ledger.sound_empty (keyed.lookup_name found)
        (starts.trans Ledger.past_empty.symm)
  have silent : Ledger.Quiet ended.1.chain.stack [.said (ended.1.chain.stepLine .terminal),
      .said (endLine (query.perform host state).1.1)] := by simp [Ledger.Quiet]
  have closed := served.before_quiet silent rfl rfl
  rw [← traced] at closed
  refine ⟨closed.sent, ?_⟩
  rw [show (query.perform host state).1 = _ from performed]
  exact closed.turns

/-- The turns that are sent in a run, request by request. -/
def sentTurns (events : List Event) : List (List Turn) :=
  events.filterMap fun event => match event with
    | .asked request _ => some request.history
    | _ => none

/-- The chain of a unit that calls one without history, in a session with a turn. -/
def asideQuery (program : Program) : Query (Report × Session) :=
  invoke ⟨program, true, 0⟩ "main" "" (some (asideSession [⟨"d", "x", none⟩]))

/-- The unit without history sends nothing, and the one that it calls only the turn of that unit; both leave
no turn in the session. -/
theorem asideSource_sends_scope_turns :
    ∃ log program, load {} [] false [.text asideSource] = (log, .ok program) ∧ program.Keyed ∧
      sentTurns ((asideQuery program).trace silentHost ())
        = [[⟨"d", "x", none⟩], [], [⟨"a", "", some "Aside"⟩]] ∧
      Ledger.AllSend program [⟨"d", "x", none⟩] {} ((asideQuery program).trace silentHost ()) ∧
      ((asideQuery program).perform silentHost ()).1.2.turns
        = [⟨"d", "x", none⟩, ⟨"m", "", some "Main"⟩] := by
  have evaluated : (load {} [] false [.text asideSource]).2.toOption.map (fun program =>
      let events := (asideQuery program).trace silentHost ()
      (sentTurns events, (Ledger.after program {} events).turnsIn Ledger.rootScope))
      = some ([[⟨"d", "x", none⟩], [], [⟨"a", "", some "Aside"⟩]], [⟨"m", "", some "Main"⟩]) := by
    decide +kernel
  obtain ⟨log, program, loaded, isPair⟩ := exists_of_load_map evaluated
  obtain ⟨areSent, areKept⟩ := Prod.mk.inj isPair
  have keyed := (tidy_of_load loaded).keyed
  obtain ⟨allSend, isEnd⟩ := requests_send_scope_turns ⟨program, true, 0⟩ keyed "main" ""
    (some (asideSession [⟨"d", "x", none⟩])) silentHost ()
  refine ⟨log, program, loaded, keyed, areSent, allSend, ?_⟩
  exact isEnd.trans (congrArg _ areKept)

end PromptChain
