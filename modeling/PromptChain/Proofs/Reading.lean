/-
**What a source says does not depend on where it stands.**

The grammar keeps the place of every word, but no decision rests on one. `unitsRead` is what the grammar
reads from a state on, without places, and two rules say all about it:

* `unitsRead_layout`: blanks and line ends before a word count for nothing;
* `unitsRead_word`: a word of an expected kind, when no other expected kind starts with its first
  character, takes the grammar one step further.
-/

import PromptChain.Proofs.Words

namespace PromptChain.Source

open Text

variable {c : Char} {kind : Terminal} {text word rest gap : List Char} {state : State}

/-! ### Words at other places -/

section Moved

variable (move : Place → Place)

/-- A word at another place. -/
def Token.moved (token : Token) : Token := { token with place := move token.place }

def RawAction.moved : RawAction → RawAction
  | .shell command => .shell (command.moved move)
  | .call targets => .call (targets.map (Token.moved move))
  | .pipe command targets => .pipe (command.moved move) (targets.map (Token.moved move))

def RawArm.moved (arm : RawArm) : RawArm := ⟨arm.pattern.moved move, arm.action.moved move⟩

def Header.moved (header : Header) : Header :=
  ⟨header.name.moved move, header.entries.map (Token.moved move)⟩

/-- A unit whose words stand at other places. -/
def RawUnit.moved (unit : RawUnit) : RawUnit :=
  ⟨unit.header.moved move, unit.subject.moved move, unit.arms.map (RawArm.moved move)⟩

def State.moved : State → State
  | .start => .start
  | .named name => .named (name.moved move)
  | .described header => .described (header.moved move)
  | .opened header => .opened (header.moved move)
  | .matching header => .matching (header.moved move)
  | .subject header word => .subject (header.moved move) (word.moved move)
  | .block unit => .block (unit.moved move)
  | .patterned unit pattern => .patterned (unit.moved move) (pattern.moved move)
  | .arrowed unit pattern => .arrowed (unit.moved move) (pattern.moved move)
  | .commanded unit pattern command =>
    .commanded (unit.moved move) (pattern.moved move) (command.moved move)
  | .calling unit pattern command targets =>
    .calling (unit.moved move) (pattern.moved move) (command.map (Token.moved move))
      (targets.map (Token.moved move))
  | .called unit pattern command targets =>
    .called (unit.moved move) (pattern.moved move) (command.map (Token.moved move))
      (targets.map (Token.moved move))
  | .closing unit => .closing (unit.moved move)

def Step.moved : Step → Step
  | .go state => .go (state.moved move)
  | .complete unit => .complete (unit.moved move)

theorem State.expected_moved (state : State) : (state.moved move).expected = state.expected := by
  cases state <;> rfl

theorem State.moved_eq_start {state : State} : state.moved move = .start ↔ state = .start := by
  cases state <;> simp [State.moved]

theorem RawUnit.addArm_moved (unit : RawUnit) (pattern : Token) (action : RawAction) :
    (unit.addArm pattern action).moved move
      = (unit.moved move).addArm (pattern.moved move) (action.moved move) := by
  simp [RawUnit.addArm, RawUnit.moved, RawArm.moved]

theorem callAction_moved (command : Option Token) (targets : List Token) :
    (callAction command targets).moved move
      = callAction (command.map (Token.moved move)) (targets.map (Token.moved move)) := by
  cases command <;> rfl

theorem afterArm_moved (unit : RawUnit) (token : Token) :
    (afterArm unit token).moved move = afterArm (unit.moved move) (token.moved move) := by
  unfold afterArm
  rw [show (token.moved move).kind = token.kind from rfl]
  split <;> rfl

/-- A word does the same wherever it stands. -/
theorem State.accept_moved (state : State) (token : Token) :
    (state.accept token).moved move = (state.moved move).accept (token.moved move) := by
  have kind : (token.moved move).kind = token.kind := rfl
  cases state with
  | described header =>
    simp only [State.accept, State.moved, kind]
    split
    · rfl
    · simp [Step.moved, State.moved, Header.moved]
  | arrowed unit pattern =>
    simp only [State.accept, State.moved, kind]
    split <;> rfl
  | commanded unit pattern command =>
    simp only [State.accept, State.moved, kind]
    split
    · rfl
    · simp only [Step.moved, afterArm_moved, RawUnit.addArm_moved]
      rfl
  | calling unit pattern command targets => simp [State.accept, State.moved, Step.moved]
  | called unit pattern command targets =>
    simp only [State.accept, State.moved, kind]
    split
    · rfl
    · simp only [Step.moved, afterArm_moved, RawUnit.addArm_moved, callAction_moved]
  | _ => rfl

end Moved

/-- A word at the first place. -/
def Token.bare (token : Token) : Token := { token with place := Place.first }

def RawAction.bare : RawAction → RawAction := RawAction.moved fun _ => Place.first

def RawArm.bare (arm : RawArm) : RawArm := ⟨arm.pattern.bare, arm.action.bare⟩

def Header.bare (header : Header) : Header := ⟨header.name.bare, header.entries.map Token.bare⟩

/-- A unit whose words stand at the first place. -/
def RawUnit.bare (unit : RawUnit) : RawUnit :=
  ⟨unit.header.bare, unit.subject.bare, unit.arms.map RawArm.bare⟩

def State.bare : State → State := State.moved fun _ => Place.first

def Step.bare : Step → Step := Step.moved fun _ => Place.first

theorem State.expected_bare (state : State) : state.bare.expected = state.expected :=
  state.expected_moved _

theorem State.accept_bare (state : State) (token : Token) :
    (state.accept token).bare = state.bare.accept token.bare := state.accept_moved _ token

/-! ### The first character of a word -/

/-- Whether a word of a kind can start with a character. -/
def Terminal.mayStart : Terminal → Char → Bool
  | .entry, c => isExportStart c
  | .slashRegex, c => c == '/'
  | .subject, c => c == '$'
  | .parenRegex, c => c == '('
  | .string, c => c == '"'
  | .name, c => isExportChar c
  | .blank, c => isLayout c
  | .shell, c => c == '\x60'
  | .comment, c => c == '#'
  | .matchWord, c => c == 'm'
  | .arrow, c => c == '='
  | .comma, c => c == ','
  | .openBrace, c => c == '{'
  | .closeBrace, c => c == '}'

theorem fixed_of_ne {d : Char} (other : c ≠ d) (word text : List Char) :
    fixed (d :: word) (c :: text) = none := by
  simp [fixed, dropPrefix?, other]

/-- A word starts with a character that words of its kind can start with. -/
theorem Terminal.lexeme?_of_not_mayStart (other : kind.mayStart c = false) (text : List Char) :
    kind.lexeme? (c :: text) = none := by
  cases kind with
  | entry =>
    change isExportStart c = false at other
    simp [Terminal.lexeme?, entryWord, other]
  | name =>
    change isExportChar c = false at other
    simp [Terminal.lexeme?, other]
  | blank =>
    change isLayout c = false at other
    simp [Terminal.lexeme?, other]
  | shell =>
    have different : c ≠ '\x60' := by simpa [Terminal.mayStart] using other
    simp [Terminal.lexeme?, different]
  | matchWord | arrow | comma | openBrace | closeBrace =>
    simp only [Terminal.mayStart, beq_eq_false_iff_ne] at other
    exact fixed_of_ne other _ _
  | slashRegex | subject | parenRegex | string | comment =>
    simp only [Terminal.mayStart, beq_eq_false_iff_ne] at other
    unfold Terminal.lexeme?
    split <;> simp_all

/-- A word that is cut off starts the text, with a character that words of its kind can start with. -/
theorem Terminal.exists_start (cut : kind.lexeme? text = some (word, rest)) :
    ∃ c tail, word = c :: tail ∧ text = c :: (tail ++ rest) ∧ kind.mayStart c = true := by
  have whole := (Terminal.lexeme?_splits _ _ _ _ cut).2
  have shorter := Terminal.lexeme?_length cut
  cases word with
  | nil =>
    rw [← whole] at shorter
    exact absurd shorter (Nat.lt_irrefl _)
  | cons c tail =>
    refine ⟨c, tail, rfl, whole.symm, ?_⟩
    by_contra notStart
    rw [← whole, List.cons_append, Terminal.lexeme?_of_not_mayStart (by simpa using notStart)] at cut
    cases cut

/-- Only kinds that can start with the first character of a text matter. -/
theorem firstWord?_filter (c : Char) (text : List Char) (kinds : List Terminal) :
    firstWord? (c :: text) (kinds.filter (·.mayStart c)) = firstWord? (c :: text) kinds := by
  induction kinds with
  | nil => rfl
  | cons kind kinds ih =>
    cases starts : kind.mayStart c with
    | true => rw [List.filter_cons, if_pos starts, firstWord?, firstWord?, ih]
    | false =>
      rw [List.filter_cons, if_neg (by simp [starts]), ih, firstWord?,
        Terminal.lexeme?_of_not_mayStart starts]

/-- When one kind alone can start with the first character, the word is of that kind. -/
theorem firstWord?_alone {kinds : List Terminal} (alone : kinds.filter (·.mayStart c) = [kind])
    (cut : kind.lexeme? (c :: text) = some (word, rest)) :
    firstWord? (c :: text) kinds = some (kind, word, rest) := by
  rw [← firstWord?_filter, alone, firstWord?, cut]

/-! ### The next word -/

theorem nextToken_eq (allowed : List Terminal) (cursor : Cursor) :
    nextToken allowed cursor =
      if cursor.rest.isEmpty then .finish
      else
        match firstWord? cursor.rest (triedKinds allowed) with
        | none => .stuck cursor
        | some (kind, word, rest) =>
          if kind.isIgnored then nextToken allowed ⟨rest, cursor.place.after word⟩
          else .token ⟨kind, word, cursor.place⟩ ⟨rest, cursor.place.after word⟩ := by
  rw [nextToken]
  split
  · rfl
  · split
    · rename_i found
      rw [found]
    · rename_i found
      rw [found]

/-- What stands at a place, without the place. -/
def Scan.bare : Scan → Scan
  | .token word cursor => .token word.bare ⟨cursor.rest, Place.first⟩
  | .finish => .finish
  | .stuck cursor => .stuck ⟨cursor.rest, Place.first⟩

/-- The next word does not depend on the place. -/
theorem nextToken_bare (allowed : List Terminal) (first second : Cursor)
    (same : first.rest = second.rest) :
    (nextToken allowed first).bare = (nextToken allowed second).bare := by
  fun_induction nextToken allowed first generalizing second with
  | case1 cursor empty => rw [nextToken_eq, ← same, if_pos empty]
  | case2 cursor nonempty none_found =>
    rw [nextToken_eq, ← same, if_neg nonempty, none_found]
    simp [Scan.bare, same]
  | case3 cursor nonempty kind word rest found next ignored ih =>
    rw [nextToken_eq _ second, ← same, if_neg nonempty, found]
    simp only [ignored, if_true]
    exact ih _ rfl
  | case4 cursor nonempty kind word rest found next kept =>
    rw [nextToken_eq _ second, ← same, if_neg nonempty, found]
    simp only [kept]
    rfl

/-- Layout is read as a blank, whatever is allowed. -/
theorem firstWord?_layout (allowed : List Terminal) (layout : isLayout c = true) (text : List Char) :
    firstWord? (c :: text) (triedKinds allowed)
      = some (.blank, c :: text.takeWhile isLayout, text.dropWhile isLayout) := by
  have only : Terminal.order.filter (·.mayStart c) = [.blank] := by
    simp only [isLayout, Bool.or_eq_true, beq_iff_eq] at layout
    rcases layout with (((rfl | rfl) | rfl) | rfl) | rfl
    · decide
    · decide
    · decide
    · decide
    · decide
  refine firstWord?_alone ?_ ?_
  · rw [triedKinds, List.filter_comm, only]
    rfl
  · rw [Terminal.lexeme?, if_pos layout]

/-- Layout in front is skipped. -/
theorem nextToken_skip (allowed : List Terminal) (whole : List Char) (place : Place) :
    nextToken allowed ⟨whole, place⟩
      = nextToken allowed ⟨whole.dropWhile isLayout, place.after (whole.takeWhile isLayout)⟩ := by
  cases whole with
  | nil => rfl
  | cons c whole =>
    cases startsLayout : isLayout c with
    | true =>
      rw [nextToken_eq, List.dropWhile_cons_of_pos startsLayout, List.takeWhile_cons_of_pos startsLayout]
      simp only [List.isEmpty_cons, Bool.false_eq_true, if_false, firstWord?_layout allowed startsLayout]
      rfl
    | false =>
      rw [List.dropWhile_cons_of_neg (by simp [startsLayout]),
        List.takeWhile_cons_of_neg (by simp [startsLayout])]
      rfl

/-- **Blanks and line ends before a word count for nothing.** -/
theorem nextToken_layout (allowed : List Terminal) (layout : ∀ c ∈ gap, isLayout c = true) (text : List Char)
    (first second : Place) :
    (nextToken allowed ⟨gap ++ text, first⟩).bare = (nextToken allowed ⟨text, second⟩).bare := by
  rw [nextToken_skip allowed (gap ++ text), nextToken_skip allowed text]
  exact nextToken_bare _ _ _ (List.dropWhile_append_of_pos layout)

/-! ### The whole grammar -/

/-- What the grammar does with what stands next. -/
def afterScan (state : State) (last : Place) (units : List RawUnit) :
    Scan → Except Malformed (List RawUnit)
  | .stuck stuck => .error (malformedAt state.expected stuck)
  | .finish =>
    if state = .start then .ok units else .error ⟨problemOfToken state.expected none, last⟩
  | .token token next =>
    match state.accept token with
    | .go state => runGrammar state token.place units next
    | .complete unit => runGrammar .start token.place (units ++ [unit]) next

theorem runGrammar_eq (state : State) (last : Place) (units : List RawUnit) (cursor : Cursor) :
    runGrammar state last units cursor
      = afterScan state last units (nextToken state.expected cursor) := by
  rw [runGrammar]
  split
  · rename_i found
    rw [found]
    rfl
  · rename_i found
    rw [found]
    rfl
  · rename_i found
    rw [found]
    rfl

/-- The units that the grammar gives, without places; none at a fault. -/
def bareUnits (result : Except Malformed (List RawUnit)) : Option (List RawUnit) :=
  match result with
  | .ok units => some (units.map RawUnit.bare)
  | .error _ => none

theorem State.bare_eq_start : state.bare = .start ↔ state = .start := State.moved_eq_start _

/-- What stands next, up to its place, decides what the grammar reads. -/
theorem bareUnits_of_sameScan {state other : State} (sameState : state.bare = other.bare)
    {units others : List RawUnit} (sameUnits : units.map RawUnit.bare = others.map RawUnit.bare)
    {cursor next : Cursor}
    (sameScan : (nextToken state.expected cursor).bare = (nextToken other.expected next).bare)
    (last final : Place) :
    bareUnits (runGrammar state last units cursor)
      = bareUnits (runGrammar other final others next) := by
  have starts : state = .start ↔ other = .start := by
    rw [← State.bare_eq_start, sameState, State.bare_eq_start]
  rw [runGrammar_eq state, runGrammar_eq other]
  cases first : nextToken state.expected cursor with
  | stuck stuck =>
    rw [first] at sameScan
    cases second : nextToken other.expected next with
    | stuck stuck => rfl
    | finish => rw [second] at sameScan; cases sameScan
    | token word behind => rw [second] at sameScan; cases sameScan
  | finish =>
    rw [first] at sameScan
    cases second : nextToken other.expected next with
    | stuck stuck => rw [second] at sameScan; cases sameScan
    | token word behind => rw [second] at sameScan; cases sameScan
    | finish =>
      by_cases isStart : state = .start
      · rw [afterScan, afterScan, if_pos isStart, if_pos (starts.mp isStart)]
        exact congrArg some sameUnits
      · rw [afterScan, afterScan, if_neg isStart, if_neg fun wrong => isStart (starts.mpr wrong)]
        rfl
  | token token after =>
    rw [first] at sameScan
    cases second : nextToken other.expected next with
    | stuck stuck => rw [second] at sameScan; cases sameScan
    | finish => rw [second] at sameScan; cases sameScan
    | token word behind =>
      rw [second] at sameScan
      simp only [Scan.bare, Scan.token.injEq, Cursor.mk.injEq, and_true] at sameScan
      obtain ⟨sameWord, sameRest⟩ := sameScan
      have shorter := nextToken_length first
      have accepted : (state.accept token).bare = (other.accept word).bare := by
        rw [State.accept_bare, State.accept_bare, sameState, sameWord]
      rw [afterScan, afterScan]
      cases goes : state.accept token with
      | go reached =>
        rw [goes] at accepted
        cases goesToo : other.accept word with
        | complete unit => rw [goesToo] at accepted; cases accepted
        | go reachedToo =>
          rw [goesToo] at accepted
          have accepted : reached.bare = reachedToo.bare := Step.go.inj accepted
          refine bareUnits_of_sameScan accepted sameUnits ?_ _ _
          rw [← reached.expected_bare, ← reachedToo.expected_bare, accepted]
          exact nextToken_bare _ _ _ sameRest
      | complete unit =>
        rw [goes] at accepted
        cases goesToo : other.accept word with
        | go reachedToo => rw [goesToo] at accepted; cases accepted
        | complete unitToo =>
          rw [goesToo] at accepted
          have accepted : unit.bare = unitToo.bare := Step.complete.inj accepted
          refine bareUnits_of_sameScan rfl ?_ (nextToken_bare _ _ _ sameRest) _ _
          rw [List.map_append, List.map_append, sameUnits, List.map_singleton, List.map_singleton,
            accepted]
termination_by cursor.rest.length
decreasing_by
  · exact shorter
  · exact shorter

/-- **No decision of the grammar rests on a place.** -/
theorem bareUnits_runGrammar {other : State} (sameState : state.bare = other.bare)
    {units others : List RawUnit} (sameUnits : units.map RawUnit.bare = others.map RawUnit.bare)
    {cursor next : Cursor} (sameText : cursor.rest = next.rest) (last final : Place) :
    bareUnits (runGrammar state last units cursor)
      = bareUnits (runGrammar other final others next) := by
  refine bareUnits_of_sameScan sameState sameUnits ?_ last final
  rw [← state.expected_bare, ← other.expected_bare, sameState]
  exact nextToken_bare _ _ _ sameText

/-- The units that the grammar reads from a state on, without places. -/
def unitsRead (state : State) (units : List RawUnit) (text : List Char) : Option (List RawUnit) :=
  bareUnits (runGrammar state Place.first units ⟨text, Place.first⟩)

theorem bareUnits_readUnits (text : List Char) :
    bareUnits (readUnits text) = unitsRead .start [] text := rfl

/-- Nothing is left to read. -/
theorem unitsRead_nil (units : List RawUnit) :
    unitsRead .start units [] = some (units.map RawUnit.bare) := by
  rw [unitsRead, runGrammar_eq, nextToken_eq]
  rfl

/-- **Layout before a word counts for nothing.** -/
theorem unitsRead_layout (state : State) (units : List RawUnit) (layout : ∀ c ∈ gap, isLayout c = true)
    (text : List Char) :
    unitsRead state units (gap ++ text) = unitsRead state units text :=
  bareUnits_of_sameScan rfl rfl (nextToken_layout _ layout text _ _) _ _

section Word

variable (layout : ∀ d ∈ gap, isLayout d = true)
  (alone : (triedKinds state.expected).filter (·.mayStart c) = [kind]) (solid : kind.isIgnored = false)
  (cut : kind.lexeme? (c :: text) = some (word, rest))

include alone solid cut

/-- A word decides the next step of the grammar when its kind alone is expected to start with its
first character. -/
theorem unitsRead_word (units : List RawUnit) :
    unitsRead state units (c :: text) = bareUnits (afterScan state Place.first units
      (.token ⟨kind, word, Place.first⟩ ⟨rest, Place.first.after word⟩)) := by
  rw [unitsRead, runGrammar_eq, nextToken_eq]
  simp [firstWord?_alone alone cut, solid]

include layout

/-- **A word takes the grammar to the next state**, whatever layout stands before it. -/
theorem unitsRead_go {reached : State} (goes : state.accept ⟨kind, word, Place.first⟩ = .go reached)
    (units : List RawUnit) : unitsRead state units (gap ++ c :: text) = unitsRead reached units rest := by
  rw [unitsRead_layout state units layout, unitsRead_word alone solid cut, afterScan, goes]
  refine bareUnits_runGrammar rfl rfl ?_ _ _
  rfl

/-- **The last word of a unit** completes it. -/
theorem unitsRead_complete {unit : RawUnit}
    (completes : state.accept ⟨kind, word, Place.first⟩ = .complete unit) (units : List RawUnit) :
    unitsRead state units (gap ++ c :: text) = unitsRead .start (units ++ [unit]) rest := by
  rw [unitsRead_layout state units layout, unitsRead_word alone solid cut, afterScan, completes]
  refine bareUnits_runGrammar rfl rfl ?_ _ _
  rfl

end Word

end PromptChain.Source
