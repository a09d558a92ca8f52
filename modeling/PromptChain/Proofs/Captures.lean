/-
**Captures are never stale.**

A `Recall` reads a run from outside. It knows the state that was passed last, and finds a match where the
chain says that an arm has matched: the unit on top has an arm that matches in that state
(`Running.matchMade?`). At every state that a chain reads or comes to, the numbered captures are those of the
match that was found last (`Recall.Fits`), and every other variable that was bound is bound.

* `Pattern.binds_of_match`: what a match binds has the whole match under its number, and no name twice, so
  that binding it replaces all numbered captures (`captures_bindCaptures`).
* `TaskRun.recalled`, `TaskRun.stayBound`: **every task keeps the captures current and the variables
  bound**, by induction over the rules.

Main statement: `captures_follow_last_match`.
-/

import PromptChain.Proofs.Assoc
import PromptChain.Proofs.Outcomes
import PromptChain.Proofs.Scopes

namespace PromptChain

/-! ### What a match binds -/

theorem captureName_injective {first second : Nat} (same : captureName first = captureName second) :
    first = second := by
  have sameText : toString first = toString second := (String.append_right_inj "M").mp same
  have sameDigits : Nat.toDigits 10 first = Nat.toDigits 10 second := by
    rw [Nat.toString_eq_ofList_toDigits, Nat.toString_eq_ofList_toDigits] at sameText
    exact String.ofList_injective sameText
  rw [← @Nat.ofDigitChars_ten_toDigits first, sameDigits, Nat.ofDigitChars_ten_toDigits]

/-- No name stands twice in what a match binds, and the whole match is there. -/
structure Binds (values : Bindings) : Prop where
  distinct : Assoc.Distinct values
  whole : (Assoc.get? values (captureName 0)).isSome = true

/-- The whole match and the groups by number. -/
def numberedBindings (pattern : Regex.Compiled) (subject : Array Char) (found : Regex.Found) : Bindings :=
  (captureName 0, found.text subject) :: (List.range pattern.groupCount).map fun index =>
    (captureName (index + 1), found.group subject (index + 1))

theorem keys_numberedBindings (pattern : Regex.Compiled) (subject : Array Char) (found : Regex.Found) :
    Assoc.keys (numberedBindings pattern subject found)
      = captureName 0 :: (List.range pattern.groupCount).map fun index => captureName (index + 1) := by
  rw [numberedBindings, Assoc.keys, List.map_cons, List.map_map]
  rfl

theorem distinct_numberedBindings (pattern : Regex.Compiled) (subject : Array Char) (found : Regex.Found) :
    Assoc.Distinct (numberedBindings pattern subject found) := by
  unfold Assoc.Distinct
  rw [keys_numberedBindings]
  refine List.nodup_cons.mpr ⟨?_, ?_⟩
  · intro isNumbered
    obtain ⟨index, _, same⟩ := List.mem_map.mp isNumbered
    cases captureName_injective same
  · refine List.nodup_range.map fun first second same => ?_
    exact Nat.succ.inj (captureName_injective same)

theorem binds_regexBindings (pattern : Regex.Compiled) (subject : Array Char) (found : Regex.Found) :
    Binds (regexBindings pattern subject found) :=
  ⟨(distinct_numberedBindings pattern subject found).setAll _,
    Assoc.isSome_get?_setAll (by simp [Assoc.get?_cons]) _⟩

theorem Pattern.binds_of_match {pattern : Pattern} {answer : String} {values : Bindings}
    (matched : pattern.bindings? answer = .ok (some values)) : Binds values := by
  cases pattern with
  | literal text ignoreCase =>
    simp only [bindings?] at matched
    split at matched
    · cases matched
      exact ⟨List.nodup_singleton _, by simp [Assoc.get?_cons]⟩
    · cases matched
  | regex source flags delimiter =>
    simp only [bindings?] at matched
    split at matched
    · cases matched
    · split at matched
      · cases matched
      · rename_i compiled _ _ found _
        cases found with
        | none => cases matched
        | some found =>
          cases matched
          exact binds_regexBindings compiled _ found

theorem binds_of_firstMatch {answer : String} {arms : List Arm} {found : Match}
    (matched : firstMatch answer arms = .ok (some found)) : Binds found.bindings := by
  have fromIndex : ∀ index, firstMatchFrom answer index arms = .ok (some found) → Binds found.bindings := by
    clear matched
    intro index isFirst
    fun_induction firstMatchFrom answer index arms with
    | case1 | case2 => cases isFirst
    | case3 index arm rest bindings isMatch =>
      cases isFirst
      exact Pattern.binds_of_match isMatch
    | case4 index arm rest _ ih => exact ih isFirst
  exact fromIndex 0 matched

theorem PromptUnit.binds_of_choice {unit : PromptUnit} {session : Session} {found : Match}
    (chosen : unit.choice session = .ok (some found)) : Binds found.bindings := by
  unfold choice at chosen
  split at chosen
  · cases chosen
  · split at chosen
    · cases chosen
    · rename_i matched
      cases chosen
      exact binds_of_firstMatch matched

/-! ### Captures and other variables -/

/-- Variables have the numbered captures of some bindings, and no others. -/
def Captures (bindings latest : Bindings) : Prop :=
  ∀ name, isNumberedCapture name = true → Assoc.get? bindings name = Assoc.get? latest name

/-- What is bound, the numbered captures apart, is still bound later. -/
def KeepsBound (bindings later : Bindings) : Prop :=
  ∀ name, isNumberedCapture name = false → (Assoc.get? bindings name).isSome = true →
    (Assoc.get? later name).isSome = true

/-- **The captures of a match replace all numbered ones.** -/
theorem captures_bindCaptures (bindings : Bindings) {values : Bindings} (binds : Binds values) :
    Captures (bindCaptures bindings values) values := by
  intro name isNumbered
  have isReplaced : values.any (fun entry => isNumberedCapture entry.1) = true := by
    obtain ⟨value, isValue⟩ := Option.isSome_iff_exists.mp binds.whole
    have isWhole : isNumberedCapture (captureName 0) = true := by decide
    exact List.any_eq_true.mpr ⟨_, Assoc.mem_of_get? isValue, isWhole⟩
  unfold bindCaptures
  rw [if_pos isReplaced, Assoc.get?_setAll _ binds.distinct,
    Assoc.get?_filter bindings (fun name => !isNumberedCapture name), isNumbered]
  simp

theorem Captures.set {bindings latest : Bindings} (captures : Captures bindings latest) {name : String}
    (other : isNumberedCapture name = false) (value : String) :
    Captures (Assoc.set bindings name value) latest := by
  intro asked isNumbered
  rw [Assoc.get?_set, if_neg]
  · exact captures asked isNumbered
  · rintro rfl
    rw [other] at isNumbered
    cases isNumbered

theorem KeepsBound.refl (bindings : Bindings) : KeepsBound bindings bindings := fun _ _ => id

theorem KeepsBound.trans {first second third : Bindings} (start : KeepsBound first second)
    (rest : KeepsBound second third) : KeepsBound first third :=
  fun name other isBound => rest name other (start name other isBound)

theorem keepsBound_set (bindings : Bindings) (name value : String) :
    KeepsBound bindings (Assoc.set bindings name value) :=
  fun _ _ isBound => Assoc.isSome_get?_set isBound name value

theorem keepsBound_bindCaptures (bindings values : Bindings) :
    KeepsBound bindings (bindCaptures bindings values) := by
  intro name other isBound
  unfold bindCaptures
  refine Assoc.isSome_get?_setAll ?_ values
  split
  · rw [Assoc.get?_filter bindings (fun name => !isNumberedCapture name), other]
    exact isBound
  · exact isBound

@[simp]
theorem PromptUnit.bindings_outset (target : PromptUnit) (before : Running) :
    (target.outset before).session.bindings = before.session.bindings := by
  unfold outset
  split <;> rfl

@[simp]
theorem PromptUnit.bindings_returned (target : PromptUnit) (before ended : Running) :
    (target.returned before ended).session.bindings = ended.session.bindings := by
  unfold returned
  split <;> rfl

/-! ### Matches in a run -/

/-- The match that a chain speaks of: a line says so in the state in which the unit on top matches. -/
def Running.matchMade? (program : Program) (moment : Running) (line : LogLine) : Option Match :=
  if moment.chain.state = .matching then
    (moment.chain.stack.getLast?.bind program.lookup).bind fun unit =>
      match unit.choice moment.session with
      | .ok (some found) => if line = ⟨.info, matchedMessage unit found⟩ then some found else none
      | _ => none
  else none

theorem Running.matchMade?_of_ne {program : Program} {moment : Running} (line : LogLine)
    (apart : moment.chain.state ≠ .matching) : moment.matchMade? program line = none :=
  if_neg apart

/-- A chain speaks of a match on its usual level. -/
theorem Running.matchMade?_of_level {program : Program} (moment : Running) {line : LogLine}
    (level : line.level ≠ .info) : moment.matchMade? program line = none := by
  unfold matchMade?
  split
  · rw [Option.bind_eq_none_iff]
    intro unit _
    split
    · refine if_neg ?_
      rintro rfl
      exact level rfl
    · rfl
  · rfl

section Choice

variable {program : Program} {moment : Running} {unit : PromptUnit}

theorem Running.matchMade?_of_choice {found : Match} (matching : moment.chain.state = .matching)
    (onTop : moment.chain.stack.getLast? = some unit.name) (isUnit : program.lookup unit.name = some unit)
    (chosen : unit.choice moment.session = .ok (some found)) :
    moment.matchMade? program ⟨.info, matchedMessage unit found⟩ = some found := by
  unfold matchMade?
  rw [if_pos matching, onTop, Option.bind_some, isUnit, Option.bind_some, chosen]
  exact if_pos rfl

theorem Running.matchMade?_of_noChoice (line : LogLine)
    (onTop : moment.chain.stack.getLast? = some unit.name) (isUnit : program.lookup unit.name = some unit)
    (chosen : unit.choice moment.session = .ok none) : moment.matchMade? program line = none := by
  unfold matchMade?
  rw [onTop, Option.bind_some, isUnit, Option.bind_some, chosen]
  exact ite_self _

end Choice

/-- What is known of the matches of a run so far. -/
structure Recall where
  /-- The state that was passed last. -/
  moment : Option Running := none
  /-- The match that was made last. -/
  found : Option Match := none

namespace Recall

/-- What an event changes. -/
def see (program : Program) (memory : Recall) (event : Event) : Recall where
  moment := event.moment memory.moment
  found := match event with
    | .said line => (memory.moment.bind fun moment => moment.matchMade? program line).or memory.found
    | _ => memory.found

/-- What is known after a part of a run. -/
def after (program : Program) (memory : Recall) (events : List Event) : Recall :=
  events.foldl (see program) memory

/-- The captures that count: those of the last match, or those of a session at first. -/
def bindings (start : Session) (memory : Recall) : Bindings := memory.found.elim start.bindings Match.bindings

/-- The numbered captures of a state are those that count. -/
def Fits (start : Session) (memory : Recall) : Event → Prop
  | .passed moment => Captures moment.session.bindings (memory.bindings start)
  | _ => True

/-- The unit on top does not match. -/
def Calm (memory : Recall) : Prop :=
  ∀ moment, memory.moment = some moment → moment.chain.state ≠ .matching

variable {program : Program} {start : Session} {memory : Recall}

@[simp]
theorem after_nil : memory.after program [] = memory := rfl

@[simp]
theorem after_cons (event : Event) (events : List Event) :
    memory.after program (event :: events) = (memory.see program event).after program events := rfl

@[simp]
theorem after_append (early late : List Event) :
    memory.after program (early ++ late) = (memory.after program early).after program late :=
  List.foldl_append

@[simp]
theorem see_passed (moment : Running) :
    memory.see program (.passed moment) = ⟨some moment, memory.found⟩ := rfl

theorem see_asked (request : ModelRequest) (reply : Option ModelReply) :
    memory.see program (.asked request reply) = memory := by
  simp [see, Event.moment]

theorem see_said_of_unmatched {line : LogLine}
    (unmatched : (memory.moment.bind fun moment => moment.matchMade? program line) = none) :
    memory.see program (.said line) = memory := by
  simp [see, Event.moment, unmatched]

@[simp]
theorem see_stepLine (chain : Chain) (next : ChainState) :
    memory.see program (.said (chain.stepLine next)) = memory := by
  refine see_said_of_unmatched (Option.bind_eq_none_iff.mpr fun moment _ => ?_)
  exact moment.matchMade?_of_level (by simp [Chain.stepLine])

@[simp]
theorem see_warningLine (fault : Fault) :
    memory.see program (.said (Chain.warningLine fault)) = memory := by
  refine see_said_of_unmatched (Option.bind_eq_none_iff.mpr fun moment _ => ?_)
  exact moment.matchMade?_of_level (by simp [Chain.warningLine])

theorem Calm.see_said (calm : memory.Calm) (line : LogLine) :
    memory.see program (.said line) = memory := by
  refine see_said_of_unmatched (Option.bind_eq_none_iff.mpr fun moment isMoment => ?_)
  exact Running.matchMade?_of_ne line (calm moment isMoment)

theorem calm_passed {moment : Running} (apart : moment.chain.state ≠ .matching) (found : Option Match) :
    Calm ⟨some moment, found⟩ := by
  intro last isLast
  cases isLast
  exact apart

/-! ### Parts of a run -/

/-- A part of a run keeps the captures current. -/
structure Recalled (program : Program) (start : Session) (memory : Recall) (events : List Event)
    (ended : Running) : Prop where
  fits : Throughout (see program) (Fits start) memory events
  ended : Captures ended.session.bindings ((memory.after program events).bindings start)

/-- **Two parts in a row** are one. -/
theorem Recalled.append {early late : List Event} {middle ended : Running}
    (first : Recalled program start memory early middle)
    (rest : Recalled program start (memory.after program early) late ended) :
    Recalled program start memory (early ++ late) ended where
  fits := throughout_append.mpr ⟨first.fits, rest.fits⟩
  ended := by
    rw [after_append]
    exact rest.ended

/-- A state is passed. -/
theorem recalled_passed (program : Program) (moment : Running)
    (current : Captures moment.session.bindings (memory.bindings start)) :
    Recalled program start memory [.passed moment] moment := by
  refine ⟨?_, current⟩
  rw [throughout_cons]
  exact ⟨current, throughout_nil⟩

/-- A state is passed in which the unit on top does not match, and then something is said. -/
theorem recalled_passed_said (program : Program) (moment : Running)
    (apart : moment.chain.state ≠ .matching) (line : LogLine)
    (current : Captures moment.session.bindings (memory.bindings start)) :
    Recalled program start memory [.passed moment, .said line] moment := by
  have calm : Calm ⟨some moment, memory.found⟩ := calm_passed apart _
  refine ⟨?_, ?_⟩
  · rw [throughout_cons, throughout_cons]
    exact ⟨current, trivial, throughout_nil⟩
  · rw [after_cons, after_cons, see_passed, calm.see_said]
    exact current

/-- A step is taken to a state. -/
theorem recalled_moveEvents (program : Program) {moment : Running} (next : ChainState)
    (current : Captures moment.session.bindings (memory.bindings start)) :
    Recalled program start memory (moment.moveEvents next) (moment.moved next) := by
  refine ⟨?_, ?_⟩
  · rw [Running.moveEvents, throughout_cons, see_stepLine]
    exact ⟨trivial, (recalled_passed program (moment.moved next) current).fits⟩
  · rw [Running.moveEvents, after_cons, see_stepLine]
    exact current

end Recall

/-! ### Rules of tasks -/

section Tasks

open Recall

variable {setting : Setting} {program : Program} {start : Session} {memory : Recall} {unit : PromptUnit}
  {before after : Running} {events : List Event}

/-- **What happens on the side makes no match**, unless the unit on top is matching. -/
theorem Aside.recalled {α : Type} {result : Except Stop α} (aside : Aside before events after result)
    (program : Program) (apart : before.chain.state ≠ .matching) (calm : memory.Calm)
    (current : Captures before.session.bindings (memory.bindings start)) :
    Recalled program start memory events after ∧ (memory.after program events).found = memory.found ∧
      (memory.after program events).Calm := by
  have steady : ∀ memory : Recall, memory.Calm → Captures before.session.bindings (memory.bindings start) →
      Throughout (see program) (Fits start) memory events ∧
      (memory.after program events).found = memory.found ∧ (memory.after program events).Calm := by
    have moments := aside.moments
    clear aside
    induction events with
    | nil => exact fun memory calm _ => ⟨throughout_nil, rfl, calm⟩
    | cons event events ih =>
      intro memory calm current
      have later := ih fun moment isEvent => moments moment (List.mem_cons_of_mem _ isEvent)
      rw [throughout_cons, Recall.after_cons]
      cases event with
      | passed moment =>
        obtain ⟨sameSession, sameCourse⟩ := moments moment List.mem_cons_self
        have sameState : moment.chain.state = before.chain.state := (congrArg Chain.state sameCourse :)
        rw [and_assoc]
        refine ⟨?_, later _ (calm_passed (sameState ▸ apart) _) current⟩
        show Captures moment.session.bindings _
        rw [sameSession]
        exact current
      | said line =>
        rw [calm.see_said line, and_assoc]
        exact ⟨trivial, later memory calm current⟩
      | asked request reply =>
        rw [and_assoc]
        exact ⟨trivial, later memory calm current⟩
      | ran request reply =>
        rw [and_assoc]
        exact ⟨trivial, later memory calm current⟩
  obtain ⟨fits, sameFound, calmAfter⟩ := steady memory calm current
  refine ⟨⟨fits, ?_⟩, sameFound, calmAfter⟩
  rw [aside.session, bindings, sameFound]
  exact current

theorem Asks.recalled {direction : String} {result : Except Stop String}
    (asks : Asks setting unit direction before events result) (program : Program)
    (apart : before.chain.state ≠ .matching)
    (current : Captures before.session.bindings (memory.bindings start)) :
    Recalled program start memory events before ∧ (memory.after program events).found = memory.found := by
  have calm : Calm ⟨some before, memory.found⟩ := calm_passed apart _
  cases asks with
  | noModel => exact ⟨⟨throughout_nil, current⟩, rfl⟩
  | answered | cancelled | unavailable | late | crashed =>
    refine ⟨⟨?_, ?_⟩, ?_⟩
    · simp only [throughout_cons, see_passed, calm.see_said, see_asked, throughout_nil, Fits, and_true]
      exact current
    · simp only [Recall.after_cons, see_passed, calm.see_said, see_asked, Recall.after_nil]
      exact current
    · simp only [Recall.after_cons, see_passed, calm.see_said, see_asked, Recall.after_nil]

theorem Hears.recalled {result : Except Stop Turn} (hears : Hears setting unit before events after result)
    (program : Program) (apart : before.chain.state ≠ .matching) (calm : memory.Calm)
    (current : Captures before.session.bindings (memory.bindings start)) :
    Recalled program start memory events after ∧ (memory.after program events).found = memory.found := by
  cases hears with
  | unresolved resolving =>
    obtain ⟨recalled, sameFound, _⟩ := (aside_of_resolve resolving).recalled program apart calm current
    exact ⟨recalled, sameFound⟩
  | unanswered resolving asking | answered resolving asking =>
    have aside := aside_of_resolve resolving
    obtain ⟨recalled, sameFound, _⟩ := aside.recalled program apart calm current
    obtain ⟨asked, sameAgain⟩ := asking.recalled program (aside.state_eq ▸ apart) recalled.ended
    refine ⟨recalled.append asked, ?_⟩
    rw [Recall.after_append, sameAgain, sameFound]

/-- The unit of a task is found under its name, and on top of the stack before it chooses; a unit that acts
does not match. -/
def Recall.Ready (program : Program) (memory : Recall) (before : Running) : Task → Prop
  | .enter unit => program.lookup unit.name = some unit
  | .choose unit => program.lookup unit.name = some unit ∧ before.chain.stack.getLast? = some unit.name
  | .act _ _ => before.chain.state = .acting ∧ memory.Calm
  | .call _ _ _ => before.chain.state = .acting

/-- An entry changes no captures, and the unit waits for the model. -/
theorem recalled_entryEvents (program : Program) (unit : PromptUnit)
    (current : Captures before.session.bindings (memory.bindings start)) :
    Recalled program start memory (before.entryEvents unit) (before.entered unit) ∧
      (memory.after program (before.entryEvents unit)).Calm := by
  have isAfter : memory.after program (before.entryEvents unit)
      = ⟨some (before.entered unit), memory.found⟩ := by
    simp [Running.entryEvents, Running.moveEvents, Running.entered]
  refine ⟨⟨?_, ?_⟩, ?_⟩
  · simp only [Running.entryEvents, Running.moveEvents, throughout_cons, see_passed, see_stepLine, Fits,
      throughout_nil, and_true, true_and]
    exact ⟨current, current, current, current⟩
  · rw [isAfter]
    exact current
  · rw [isAfter]
    exact calm_passed (by simp [Running.entered, Running.moved]) _

/-- The captures of an arm that is chosen count from then on. -/
theorem recalled_choiceEvents {found : Match} (isUnit : program.lookup unit.name = some unit)
    (onTop : before.chain.stack.getLast? = some unit.name)
    (chosen : unit.choice before.session = .ok (some found))
    (current : Captures before.session.bindings (memory.bindings start)) :
    Recalled program start memory (before.choiceEvents ⟨.info, matchedMessage unit found⟩ found)
        (before.chosen found) ∧
      (memory.after program (before.choiceEvents ⟨.info, matchedMessage unit found⟩ found)).Calm := by
  have made : (before.moved .matching).matchMade? program ⟨.info, matchedMessage unit found⟩ = some found :=
    Running.matchMade?_of_choice rfl onTop isUnit chosen
  have seen : ∀ old, see program ⟨some (before.moved .matching), old⟩
      (.said ⟨.info, matchedMessage unit found⟩) = ⟨some (before.moved .matching), some found⟩ := by
    intro old
    simp [see, Event.moment, made]
  have isAfter : memory.after program (before.choiceEvents ⟨.info, matchedMessage unit found⟩ found)
      = ⟨some (before.chosen found), some found⟩ := by
    simp [Running.choiceEvents, Running.moveEvents, Running.chosen, seen]
  have new : Captures (bindCaptures before.session.bindings found.bindings) found.bindings :=
    captures_bindCaptures _ (PromptUnit.binds_of_choice chosen)
  refine ⟨⟨?_, ?_⟩, ?_⟩
  · simp only [Running.choiceEvents, Running.moveEvents, List.cons_append, List.nil_append, throughout_cons,
      see_passed, see_stepLine, seen, Fits, throughout_nil, and_true, true_and]
    exact ⟨current, current, new, new⟩
  · rw [isAfter]
    exact new
  · rw [isAfter]
    exact calm_passed (by simp [Running.chosen, Running.moved]) _

/-- A call keeps the captures current when the unit that is called does. -/
theorem recalled_framed (program : Program) (target : PromptUnit) {ended : Running}
    (inner : ∀ memory : Recall, Captures before.session.bindings (memory.bindings start) →
      Recalled program start memory events ended)
    (current : Captures before.session.bindings (memory.bindings start)) :
    Recalled program start memory (target.framed before events ended) (target.returned before ended) := by
  by_cases shared : target.history = true
  · rw [PromptUnit.framed, PromptUnit.returned, if_pos shared, if_pos shared]
    exact inner memory current
  · have first : Recalled program start memory [.passed (target.outset before)] (target.outset before) :=
      recalled_passed program _ (by rw [PromptUnit.bindings_outset]; exact current)
    have middle := first.append (inner _ (by rw [← target.bindings_outset]; exact first.ended))
    rw [PromptUnit.framed, if_neg shared]
    refine middle.append (recalled_passed program _ ?_)
    rw [PromptUnit.bindings_returned]
    exact middle.ended

theorem Resumes.recalled (resumes : Resumes before events after) (program : Program)
    (current : Captures before.session.bindings (memory.bindings start)) :
    Recalled program start memory events after := by
  cases resumes with
  | stays _ => exact ⟨throughout_nil, current⟩
  | goes _ => exact recalled_moveEvents program .acting current

/-- **Every task keeps the captures current.** -/
theorem TaskRun.recalled {depth : Nat} {task : Task} {result : Except Stop Outcome}
    (run : TaskRun setting depth task before events after result) (keyed : setting.program.Keyed)
    (ready : memory.Ready setting.program before task)
    (current : Captures before.session.bindings (memory.bindings start)) :
    Recalled setting.program start memory events after := by
  induction run generalizing memory with
  | refused | cyclic => exact recalled_passed setting.program _ current
  | finished | unresolved => exact ⟨throughout_nil, current⟩
  | @unheard _ unit before ended events reason _ _ _ hearing =>
    obtain ⟨entered, calm⟩ := recalled_entryEvents setting.program unit current
    obtain ⟨heard, _⟩ := hearing.recalled setting.program (by simp [Running.entered, Running.moved]) calm
      entered.ended
    exact entered.append (heard.append (recalled_passed setting.program _ heard.ended))
  | @heard _ unit before middle ended early late turn _ _ _ _ hearing _ choosing =>
    obtain ⟨entered, calm⟩ := recalled_entryEvents setting.program unit current
    obtain ⟨heard, _⟩ := hearing.recalled setting.program (by simp [Running.entered, Running.moved]) calm
      entered.ended
    have told := recalled_passed setting.program (middle.told turn)
      (heard.ended.set (by decide) turn.answer)
    have onTop : (middle.told turn).chain.stack.getLast? = some unit.name := by
      show middle.chain.stack.getLast? = _
      rw [hearing.stack_eq]
      exact List.getLast?_concat
    have chosen := choosing ⟨ready, onTop⟩ told.ended
    exact entered.append (heard.append (told.append
      (chosen.append (recalled_passed setting.program _ chosen.ended))))
  | undecided =>
    have moved := recalled_moveEvents setting.program .matching current
    exact moved.append (recalled_passed setting.program _ moved.ended)
  | @unmatched _ unit before line _ chosen =>
    obtain ⟨isUnit, onTop⟩ := ready
    have moved := recalled_moveEvents setting.program .matching current
    refine moved.append ⟨?_, ?_⟩
    · rw [throughout_cons, throughout_cons]
      exact ⟨moved.ended, trivial, throughout_nil⟩
    · have unmatched : (before.moved .matching).matchMade? setting.program line = none :=
        Running.matchMade?_of_noChoice line onTop isUnit chosen
      rw [Recall.after_cons, Recall.after_cons, see_passed, see_said_of_unmatched (by exact unmatched)]
      exact moved.ended
  | matched _ chosen _ acting =>
    obtain ⟨isUnit, onTop⟩ := ready
    obtain ⟨bound, calm⟩ := recalled_choiceEvents isUnit onTop chosen current
    exact bound.append (acting ⟨rfl, calm⟩ bound.ended)
  | halted _ running | pipeFailed _ running =>
    exact ((aside_of_runCommand running).recalled setting.program (by simp [ready.1]) ready.2 current).1
  | printed _ running =>
    obtain ⟨ran, _⟩ := (aside_of_runCommand running).recalled setting.program (by simp [ready.1])
      ready.2 current
    exact ran.append (recalled_passed setting.program _ ran.ended)
  | failed _ running =>
    obtain ⟨ran, _⟩ := (aside_of_runCommand running).recalled setting.program (by simp [ready.1])
      ready.2 current
    refine ran.append ⟨?_, ?_⟩
    · rw [throughout_cons, throughout_cons, throughout_cons, see_warningLine]
      exact ⟨ran.ended, trivial, ran.ended, throughout_nil⟩
    · rw [Recall.after_cons, Recall.after_cons, see_warningLine]
      exact ran.ended
  | @piped _ _ _ _ _ given before middle _ early _ line _ _ running _ calling =>
    have aside := aside_of_runCommand running
    obtain ⟨ran, _⟩ := aside.recalled setting.program (by simp [ready.1]) ready.2 current
    have acting : (middle.piped (trimOutput given.stdout)).chain.state = .acting :=
      aside.state_eq.trans ready.1
    have piped := recalled_passed_said setting.program (middle.piped (trimOutput given.stdout))
      (by simp [acting]) line (ran.ended.set (by decide) (trimOutput given.stdout))
    exact ran.append (piped.append (calling acting piped.ended))
  | called _ calling => exact calling ready.1 current
  | @stopped _ _ target _ _ _ before ended _ line _ _ found _ _ entering =>
    have isFound := keyed.lookup_name found
    have apart : before.chain.state ≠ .matching := by simp [show before.chain.state = .acting from ready]
    have call := recalled_passed_said setting.program before apart line current
    refine call.append (recalled_framed setting.program target
      (fun memory current => entering isFound ?_) call.ended)
    rw [PromptUnit.bindings_outset]
    exact current
  | @next _ _ target _ _ _ _ before ended middle _ _ steps _ line _ _ found _ _ resuming _ entering calls =>
    have isFound := keyed.lookup_name found
    have apart : before.chain.state ≠ .matching := by simp [show before.chain.state = .acting from ready]
    have call := recalled_passed_said setting.program before apart line current
    have framed := recalled_framed setting.program target (fun memory current => entering isFound (by
      rw [PromptUnit.bindings_outset]
      exact current)) call.ended
    have resumed := resuming.recalled setting.program framed.ended
    exact call.append (framed.append (resumed.append (calls resuming.acting resumed.ended)))

/-! ### What stays bound -/

/-- The variables at the states that are passed. -/
def passedBindings (events : List Event) : List Bindings :=
  events.filterMap fun event => match event with
    | .passed moment => some moment.session.bindings
    | _ => none

/-- Nothing that is bound, the numbered captures apart, is lost between two states, from one before to one
after. -/
def StayBound (before : Running) (events : List Event) (after : Running) : Prop :=
  (before.session.bindings :: passedBindings events ++ [after.session.bindings]).Pairwise KeepsBound

/-- **Two parts in a row** are one. -/
theorem StayBound.append {early late : List Event} {middle : Running} (start : StayBound before early middle)
    (rest : StayBound middle late after) : StayBound before (early ++ late) after := by
  unfold StayBound at start rest ⊢
  obtain ⟨first, _, toMiddle⟩ := List.pairwise_append.mp start
  obtain ⟨fromMiddle, second⟩ := List.pairwise_cons.mp rest
  have joined : passedBindings (early ++ late) = passedBindings early ++ passedBindings late :=
    List.filterMap_append
  rw [joined, ← List.cons_append, List.append_assoc]
  refine List.pairwise_append.mpr ⟨first, second, fun old isOld new isNew => ?_⟩
  exact (toMiddle old isOld _ (List.mem_singleton.mpr rfl)).trans (fromMiddle new isNew)

/-- The variables do not change. -/
theorem stayBound_of_same (same : after.session.bindings = before.session.bindings)
    (moments : ∀ moment, Event.passed moment ∈ events → moment.session.bindings = before.session.bindings) :
    StayBound before events after := by
  have all : ∀ bindings ∈ before.session.bindings :: passedBindings events ++ [after.session.bindings],
      bindings = before.session.bindings := by
    intro bindings isOne
    simp only [List.cons_append, List.mem_cons, List.mem_append, List.not_mem_nil, or_false] at isOne
    rcases isOne with rfl | isPassed | rfl
    · rfl
    · obtain ⟨event, isEvent, isBindings⟩ := List.mem_filterMap.mp isPassed
      cases event with
      | passed moment =>
        cases isBindings
        exact moments moment isEvent
      | said | asked | ran => cases isBindings
    · exact same
  refine List.pairwise_of_forall_mem_list fun old isOld new isNew => ?_
  rw [all old isOld, all new isNew]
  exact KeepsBound.refl _

/-- A state is passed. -/
theorem stayBound_passed (keeps : KeepsBound before.session.bindings after.session.bindings) :
    StayBound before [.passed after] after := by
  simp [StayBound, passedBindings, keeps, KeepsBound.refl]

theorem Aside.stayBound {α : Type} {result : Except Stop α} (aside : Aside before events after result) :
    StayBound before events after := by
  refine stayBound_of_same (by rw [aside.session]) fun moment isMoment => ?_
  rw [(aside.moments moment isMoment).1]

theorem Hears.stayBound {result : Except Stop Turn} (hears : Hears setting unit before events after result) :
    StayBound before events after := by
  cases hears with
  | unresolved resolving => exact (aside_of_resolve resolving).stayBound
  | unanswered resolving asking | answered resolving asking =>
    refine (aside_of_resolve resolving).stayBound.append (stayBound_of_same rfl fun moment isMoment => ?_)
    cases asking <;> simp_all

theorem Resumes.stayBound (resumes : Resumes before events after) : StayBound before events after := by
  cases resumes with
  | stays _ => exact stayBound_of_same rfl (by simp)
  | goes _ => exact stayBound_of_same rfl (by simp [Running.moveEvents, Running.moved])

theorem stayBound_framed (target : PromptUnit) {ended : Running}
    (inner : StayBound (target.outset before) events ended) :
    StayBound before (target.framed before events ended) (target.returned before ended) := by
  by_cases shared : target.history = true
  · rw [PromptUnit.framed, PromptUnit.returned, if_pos shared, if_pos shared]
    rw [PromptUnit.outset, if_pos shared] at inner
    exact inner
  · have first : StayBound before [.passed (target.outset before)] (target.outset before) :=
      stayBound_of_same (by simp) (by simp)
    have last : StayBound ended [.passed (target.returned before ended)] (target.returned before ended) :=
      stayBound_of_same (by simp) (by simp)
    rw [PromptUnit.framed, if_neg shared]
    exact (first.append inner).append last

theorem stayBound_entryEvents (before : Running) (unit : PromptUnit) :
    StayBound before (before.entryEvents unit) (before.entered unit) := by
  refine stayBound_of_same rfl ?_
  simp [Running.entryEvents, Running.moveEvents, Running.moved, Running.noted, Running.pushed]

theorem stayBound_choiceEvents (before : Running) (line : LogLine) (found : Match) :
    StayBound before (before.choiceEvents line found) (before.chosen found) := by
  have moved : StayBound before
      (before.moveEvents .matching ++ [.passed (before.moved .matching), .said line])
      (before.moved .matching) :=
    stayBound_of_same rfl (by simp [Running.moveEvents, Running.moved])
  have bound : StayBound (before.moved .matching) [.passed ((before.moved .matching).bound found)]
      ((before.moved .matching).bound found) :=
    stayBound_passed (keepsBound_bindCaptures _ found.bindings)
  have acts : StayBound ((before.moved .matching).bound found)
      (((before.moved .matching).bound found).moveEvents .acting) (before.chosen found) :=
    stayBound_of_same rfl (by simp [Running.moveEvents, Running.moved])
  exact moved.append (bound.append acts)

/-- **Every task leaves what is bound bound.** -/
theorem TaskRun.stayBound {depth : Nat} {task : Task} {result : Except Stop Outcome}
    (run : TaskRun setting depth task before events after result) : StayBound before events after := by
  induction run with
  | refused | cyclic => exact stayBound_of_same rfl (by simp)
  | finished | unresolved => exact stayBound_of_same rfl (by simp)
  | @unheard _ unit before ended events reason _ _ _ hearing =>
    have left : StayBound ended [.passed ended.left] ended.left :=
      stayBound_of_same rfl (by simp [Running.left])
    exact (stayBound_entryEvents before unit).append (hearing.stayBound.append left)
  | @heard _ unit before middle ended early late turn _ _ _ _ hearing _ choosing =>
    have told : StayBound middle [.passed (middle.told turn)] (middle.told turn) :=
      stayBound_passed (keepsBound_set _ "AI" turn.answer)
    have left : StayBound ended [.passed ended.left] ended.left :=
      stayBound_of_same rfl (by simp [Running.left])
    exact (stayBound_entryEvents before unit).append
      (hearing.stayBound.append (told.append (choosing.append left)))
  | undecided | unmatched =>
    exact stayBound_of_same rfl (by simp [Running.moveEvents, Running.moved])
  | matched _ _ _ acting => exact (stayBound_choiceEvents _ _ _).append acting
  | halted _ running | pipeFailed _ running => exact (aside_of_runCommand running).stayBound
  | printed _ running | failed _ running =>
    refine (aside_of_runCommand running).stayBound.append (stayBound_of_same rfl ?_)
    simp [Running.printed]
  | @piped _ _ _ _ _ given before middle _ early _ line _ _ running _ calling =>
    have piped : StayBound middle [.passed (middle.piped (trimOutput given.stdout)), .said line]
        (middle.piped (trimOutput given.stdout)) :=
      stayBound_passed (keepsBound_set _ "AI" (trimOutput given.stdout))
    exact (aside_of_runCommand running).stayBound.append (piped.append calling)
  | called _ calling => exact calling
  | @stopped _ _ target _ _ _ before ended _ line _ _ _ _ _ entering =>
    have call : StayBound before [.passed before, .said line] before := stayBound_of_same rfl (by simp)
    exact call.append (stayBound_framed target entering)
  | @next _ _ target _ _ _ _ before ended middle _ _ steps _ line _ _ _ _ _ resuming _ entering calls =>
    have call : StayBound before [.passed before, .said line] before := stayBound_of_same rfl (by simp)
    exact call.append ((stayBound_framed target entering).append (resuming.stayBound.append calls))

end Tasks

/-- **Captures are never stale.** In the chain of every program whose units stand under their own keys, from
every session and with every host, also one that breaks off or fails:

* At every state that the chain reads or comes to, and so wherever a text is filled in or a variable is
  matched, the numbered captures and their values are those of the match that was made last anywhere in the
  chain, or those of the session at the start if no match was made.
* Every other variable that is bound at the start or at such a state is bound at all later ones, and at the
  end. -/
theorem captures_follow_last_match (setting : Setting) (keyed : setting.program.Keyed) (name user : String)
    (session : Option Session) {σ : Type} (host : Query.Host σ) (state : σ) :
    let query := invoke setting name user session
    let events := query.trace host state
    let start := startSession user session
    Throughout (Recall.see setting.program) (Recall.Fits start) {} events ∧
      (start.bindings :: passedBindings events
        ++ [(query.perform host state).1.2.bindings]).Pairwise KeepsBound := by
  intro query events start
  obtain ⟨performed, traced⟩ := perform_invoke setting name user session host state
  let ended := ((runNamed setting name start).perform host state).1
  let inner := (runNamed setting name start).trace host state
  have runs := (runNamed setting name start).runs_trace host state
  have isEnd : (query.perform host state).1.2 = ended.1.session := congrArg Prod.snd performed
  have current : Captures start.bindings (Recall.bindings start {}) := fun _ _ => rfl
  have both : Throughout (Recall.see setting.program) (Recall.Fits start) {} inner ∧
      ∃ root, StayBound ⟨{ root }, start⟩ inner ended.1 := by
    rcases runs_runNamed runs with ⟨_, noEvents, isEnd, _⟩ | ⟨unit, found, run⟩
    · have isInner : inner = [] := noEvents
      have isStart : ended.1 = ⟨{ root := name }, start⟩ := isEnd
      rw [isInner, isStart]
      exact ⟨throughout_nil, name, stayBound_of_same rfl (by simp)⟩
    · exact ⟨(run.recalled keyed (keyed.lookup_name found) current).fits, unit.name, run.stayBound⟩
  obtain ⟨fits, root, stay⟩ := both
  constructor
  · rw [show events = _ from traced, throughout_append]
    exact ⟨fits, throughout_of_forall (by simp [Recall.Fits])⟩
  · have isPassed : passedBindings events = passedBindings inner := by
      rw [show events = _ from traced, passedBindings, List.filterMap_append]
      exact List.append_nil _
    rw [isPassed, isEnd]
    exact stay

/-- A unit with two groups, which calls one without any, and then one that asks with captures. -/
def groupSource : String :=
  "Main\ndirection:m\n\x7bmatch $AI\x7b/(a)(b)/=>aside,last\x7d\x7d\n"
    ++ "Aside\ndirection:$M2$M1\nhistory:false\n\x7bmatch $AI\x7b\"ab\"=>`true`\x7d\x7d\n"
    ++ "Last\ndirection:$M0\n\x7bmatch $AI\x7b\"c\"=>`true`\x7d\x7d\n"

/-- The chain of that unit. -/
def groupQuery (program : Program) : Query (Report × Session) := invoke ⟨program, true, 0⟩ "main" "" none

/-- The directions of the requests in a run. -/
def sentDirections (events : List Event) : List String :=
  events.filterMap fun event => match event with
    | .asked request _ => some request.direction
    | _ => none

/-- The second unit asks with the groups of the first; after its own match, which is in a call of its own, no
group is left. -/
theorem groupSource_follows_last_match :
    ∃ log program, load {} [] false [.text groupSource] = (log, .ok program) ∧ program.Keyed ∧
      sentDirections ((groupQuery program).trace (parrotHost "ab") ()) = ["m", "ba", "ab"] ∧
      ((groupQuery program).perform (parrotHost "ab") ()).1.2.bindings
        = [("AI", "ab"), ("USER", ""), ("M0", "ab")] ∧
      Throughout (Recall.see program) (Recall.Fits (Session.start "")) {}
        ((groupQuery program).trace (parrotHost "ab") ()) := by
  have evaluated : (load {} [] false [.text groupSource]).2.toOption.map (fun program =>
      (sentDirections ((groupQuery program).trace (parrotHost "ab") ()),
        ((groupQuery program).perform (parrotHost "ab") ()).1.2.bindings))
      = some (["m", "ba", "ab"], [("AI", "ab"), ("USER", ""), ("M0", "ab")]) := by
    decide +kernel
  obtain ⟨log, program, loaded, isPair⟩ := exists_of_load_map evaluated
  obtain ⟨areSent, areBound⟩ := Prod.mk.inj isPair
  have keyed := (tidy_of_load loaded).keyed
  obtain ⟨fits, _⟩ := captures_follow_last_match ⟨program, true, 0⟩ keyed "main" "" none (parrotHost "ab") ()
  exact ⟨log, program, loaded, keyed, areSent, areBound, fits⟩

end PromptChain
