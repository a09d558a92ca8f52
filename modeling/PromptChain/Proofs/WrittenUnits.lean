/-
**The words of written units.**

The words of a written unit are known (`unitWords`), and the grammar reads exactly these from its text:
patterns and actions (`unitsRead_arm`), metadata entries whose texts are kept by their layout
(`unitsRead_header`), and the unit as a whole (`unitsRead_formatUnit`).

Main statement: `unitsRead_below`, for units one below the other; `unitsRead_formatUnits` says that the
units of a source stand so.
-/

import Mathlib.Data.List.Nodup
import PromptChain.Proofs.Reading

namespace PromptChain.Source

open Text

variable {state : State} {unit : RawUnit} {pattern : Pattern} {rest : List Char} {key : String}
  {texts : List (String × String)} {targets : List String} {entries : List MetaEntry}

/-! ### The words of a unit -/

/-- A word without a place. -/
def bareWord (kind : Terminal) (text : List Char) : Token := ⟨kind, text, Place.first⟩

def nameWord (name : String) : Token := bareWord .name name.toList

def commandWord (command : String) : Token :=
  bareWord .shell ('\x60' :: (command.toList ++ ['\x60']))

/-- The kind of word that a pattern is. -/
def patternKind : Pattern → Terminal
  | .literal _ _ => .string
  | .regex _ _ .slash => .slashRegex
  | .regex _ _ .paren => .parenRegex

def patternWord (pattern : Pattern) : Token :=
  bareWord (patternKind pattern) (formatPattern pattern).toList

def actionWords : Action → RawAction
  | .shell command => .shell (commandWord command)
  | .call targets => .call (targets.map nameWord)
  | .pipe command targets => .pipe (commandWord command) (targets.map nameWord)

def armWords (arm : Arm) : RawArm := ⟨patternWord arm.pattern, actionWords arm.action⟩

def entryWords (unit : PromptUnit) : List Token :=
  (formatEntries unit).map fun entry => bareWord .entry entry.toList

/-- The words of a written unit. -/
def unitWords (unit : PromptUnit) : RawUnit where
  header := ⟨nameWord unit.name, entryWords unit⟩
  subject := bareWord .subject ('$' :: unit.subject.toList)
  arms := unit.arms.map armWords

/-! ### Arms -/

/-- The state behind an arm that may go on. -/
def afterAction (unit : RawUnit) (pattern : Token) : RawAction → State
  | .shell command => .commanded unit pattern command
  | .call targets => .called unit pattern none targets
  | .pipe command targets => .called unit pattern (some command) targets

/-- A state in which an arm may start, and the unit to which it will be added. -/
inductive AwaitsArm : State → RawUnit → Prop
  | first (unit : RawUnit) : AwaitsArm (.block unit) unit
  | next (unit : RawUnit) (pattern : Token) (action : RawAction) :
    AwaitsArm (afterAction unit pattern action) (unit.addArm pattern action)

theorem afterAction_accept (unit : RawUnit) (pattern : Token) (action : RawAction) {token : Token}
    (ends : token.kind ≠ .arrow ∧ token.kind ≠ .comma) :
    (afterAction unit pattern action).accept token
      = .go (afterArm (unit.addArm pattern action) token) := by
  cases action with
  | shell command => rw [afterAction, State.accept, if_neg ends.1]
  | call targets =>
    rw [afterAction, State.accept, if_neg ends.2]
    rfl
  | pipe command targets =>
    rw [afterAction, State.accept, if_neg ends.2]
    rfl

/-- A pattern starts an arm. -/
theorem AwaitsArm.accept (awaits : AwaitsArm state unit) (pattern : Pattern) :
    state.accept (patternWord pattern) = .go (.patterned unit (patternWord pattern)) := by
  obtain ⟨notArrow, notComma, notBrace⟩ : (patternWord pattern).kind ≠ .arrow ∧
      (patternWord pattern).kind ≠ .comma ∧ (patternWord pattern).kind ≠ .closeBrace := by
    change patternKind pattern ≠ .arrow ∧ patternKind pattern ≠ .comma ∧
      patternKind pattern ≠ .closeBrace
    unfold patternKind
    split
    · decide
    · decide
    · decide
  cases awaits with
  | first => rfl
  | next before other action =>
    rw [afterAction_accept _ _ _ ⟨notArrow, notComma⟩, afterArm, if_neg notBrace]

/-- The first character of a written pattern. -/
def patternSign : Pattern → Char
  | .literal _ _ => '"'
  | .regex _ _ .slash => '/'
  | .regex _ _ .paren => '('

/-- Where an arm may start, the first character of a pattern tells its kind. -/
theorem AwaitsArm.alone (awaits : AwaitsArm state unit) (pattern : Pattern) :
    (triedKinds state.expected).filter (·.mayStart (patternSign pattern))
      = [patternKind pattern] := by
  have signs : ∀ kinds ∈ [patternKinds, .arrow :: .closeBrace :: patternKinds,
      .comma :: .closeBrace :: patternKinds], (triedKinds kinds).filter (·.mayStart '"') = [.string] ∧
        (triedKinds kinds).filter (·.mayStart '/') = [.slashRegex] ∧
        (triedKinds kinds).filter (·.mayStart '(') = [.parenRegex] := by
    decide
  have expected : state.expected ∈ [patternKinds, .arrow :: .closeBrace :: patternKinds,
      .comma :: .closeBrace :: patternKinds] := by
    cases awaits with
    | first => exact List.mem_cons_self
    | next before other action => cases action <;> simp [afterAction, State.expected]
  obtain ⟨string, slash, paren⟩ := signs _ expected
  unfold patternSign patternKind
  split
  · exact string
  · exact slash
  · exact paren

/-- An arrow behind a blank. -/
theorem arrowFollows_arrow (rest : List Char) : arrowFollows (' ' :: '=' :: '>' :: rest) = true := by
  unfold arrowFollows
  rw [List.dropWhile_cons_of_pos (by decide), List.dropWhile_cons_of_neg (by decide),
    show '=' :: '>' :: rest = ['=', '>'] ++ rest from rfl, dropPrefix?_self]
  rfl

/-- A written pattern is cut off in full before an arrow. -/
theorem lexeme?_pattern (wellFormed : pattern.WellFormed) (rest : List Char) :
    (patternKind pattern).lexeme? ((formatPattern pattern).toList ++ ' ' :: '=' :: '>' :: rest)
      = some ((formatPattern pattern).toList, ' ' :: '=' :: '>' :: rest) := by
  match pattern with
  | .literal text ignoreCase => exact lexeme?_string text ignoreCase (Stops.cons (by decide) _)
  | .regex source flags .slash =>
    obtain ⟨nonempty, isBody, letters, _⟩ := wellFormed
    exact lexeme?_slash nonempty isBody letters (Stops.cons (by decide) _)
  | .regex source flags .paren => exact lexeme?_paren wellFormed.1 (arrowFollows_arrow rest)

theorem head?_formatPattern (wellFormed : pattern.WellFormed) :
    (formatPattern pattern).toList.head? = some (patternSign pattern) := by
  match pattern with
  | .literal text ignoreCase => rw [toList_formatPattern_literal]; rfl
  | .regex source flags .slash => rw [toList_formatPattern_slash]; rfl
  | .regex source flags .paren =>
    obtain ⟨inner, delimited⟩ := wellFormed.1.delimited
    rw [formatPattern, delimited]
    rfl

/-- An arrow behind a pattern. -/
theorem unitsRead_arrow (unit : RawUnit) (pattern : Token) (units : List RawUnit)
    (rest : List Char) :
    unitsRead (.patterned unit pattern) units (' ' :: '=' :: '>' :: rest)
      = unitsRead (.arrowed unit pattern) units rest := by
  have alone : (triedKinds [.arrow]).filter (·.mayStart '=') = [.arrow] := by decide
  have layout : ∀ c ∈ [' '], isLayout c = true := List.all_eq_true.mp rfl
  exact unitsRead_go layout alone rfl (lexeme?_arrow rest) rfl units

/-- **A pattern and its arrow.** -/
theorem unitsRead_pattern (awaits : AwaitsArm state unit) (wellFormed : pattern.WellFormed) {gap : List Char}
    (layout : ∀ c ∈ gap, isLayout c = true) (units : List RawUnit) (rest : List Char) :
    unitsRead state units (gap ++ ((formatPattern pattern).toList ++ ' ' :: '=' :: '>' :: rest))
      = unitsRead (.arrowed unit (patternWord pattern)) units rest := by
  have cut := lexeme?_pattern wellFormed rest
  have sign := head?_formatPattern wellFormed
  cases written : (formatPattern pattern).toList with
  | nil => rw [written] at sign; cases sign
  | cons c text =>
    rw [written] at sign cut
    cases sign
    rw [List.cons_append] at cut ⊢
    rw [unitsRead_go layout (awaits.alone pattern) (by unfold patternKind; split <;> rfl) cut
      (by
        have accepted := awaits.accept pattern
        unfold patternWord bareWord at accepted
        rw [written] at accepted
        exact accepted)]
    rw [← unitsRead_arrow, patternWord, bareWord, written]

/-! ### Actions -/

/-- A character of a name starts nothing but a name where names are expected. -/
theorem alone_of_isExportChar {kinds : List Terminal} (expects : kinds = [.name] ∨ kinds = [.shell, .name])
    {c : Char} (inName : isExportChar c = true) :
    (triedKinds kinds).filter (·.mayStart c) = [.name] := by
  have notLayout := isLayout_of_isExportChar inName
  have notHash : c ≠ '#' := ne_of_isExportChar inName (by decide)
  have notBacktick : c ≠ '\x60' := ne_of_isExportChar inName (by decide)
  rcases expects with rfl | rfl
  · rw [show triedKinds [.name] = [.name, .blank, .comment] by decide]
    simp [Terminal.mayStart, inName, notLayout, notHash]
  · rw [show triedKinds [.shell, .name] = [.name, .blank, .shell, .comment] by decide]
    simp [Terminal.mayStart, inName, notLayout, notHash, notBacktick]

/-- **A name** is read where one is expected. -/
theorem unitsRead_name {reached : State}
    (expects : state.expected = [.name] ∨ state.expected = [.shell, .name]) {name : String}
    (isName : IsName name.toList) (goes : state.accept (nameWord name) = .go reached) {gap : List Char}
    (layout : ∀ c ∈ gap, isLayout c = true) (ends : Stops isExportChar rest) (units : List RawUnit) :
    unitsRead state units (gap ++ (name.toList ++ rest)) = unitsRead reached units rest := by
  have cut := lexeme?_name isName ends
  unfold nameWord bareWord at goes
  obtain ⟨nonempty, passes⟩ := isName
  cases written : name.toList with
  | nil => exact absurd written nonempty
  | cons c word =>
    rw [written] at cut goes passes
    have alone := alone_of_isExportChar expects (passes c List.mem_cons_self)
    exact unitsRead_go layout alone rfl cut goes units

/-- Names behind a first one, as they are written. -/
def moreTargets (targets : List String) : List Char :=
  targets.flatMap fun target => ',' :: ' ' :: target.toList

theorem toList_targets (target : String) (targets : List String) :
    (String.intercalate ", " (target :: targets)).toList = target.toList ++ moreTargets targets := by
  induction targets generalizing target with
  | nil => simp [moreTargets]
  | cons next targets ih =>
    have later := ih next
    simp only [String.toList_intercalate, List.map_cons] at later ⊢
    rw [List.intercalate_cons_cons, later]
    simp [moreTargets]

theorem stops_moreTargets (targets : List String) (ends : Stops isExportChar rest) :
    Stops isExportChar (moreTargets targets ++ rest) := by
  cases targets with
  | nil => exact ends
  | cons target targets => exact Stops.cons (by decide) _

/-- **The units that an arm calls** are read one after the other. -/
theorem unitsRead_moreTargets (unit : RawUnit) (pattern : Token) (command : Option Token)
    (areNames : ∀ target ∈ targets, IsName target.toList) (before : List Token)
    (units : List RawUnit) (ends : Stops isExportChar rest) :
    unitsRead (.called unit pattern command before) units (moreTargets targets ++ rest)
      = unitsRead (.called unit pattern command (before ++ targets.map nameWord)) units rest := by
  induction targets generalizing before with
  | nil => simp [moreTargets]
  | cons target targets ih =>
    have comma : unitsRead (.called unit pattern command before) units
        (',' :: ' ' :: (target.toList ++ (moreTargets targets ++ rest)))
        = unitsRead (.calling unit pattern command before) units
          ([' '] ++ (target.toList ++ (moreTargets targets ++ rest))) := by
      have alone : (triedKinds (.comma :: .closeBrace :: patternKinds)).filter (·.mayStart ',')
          = [.comma] := by decide
      have layout : ∀ c ∈ ([] : List Char), isLayout c = true := by simp
      exact unitsRead_go layout alone rfl (lexeme?_comma _) rfl units
    have named : unitsRead (.calling unit pattern command before) units
        ([' '] ++ (target.toList ++ (moreTargets targets ++ rest)))
        = unitsRead (.called unit pattern command (before ++ [nameWord target])) units
          (moreTargets targets ++ rest) :=
      unitsRead_name (Or.inl rfl) (areNames target List.mem_cons_self) rfl
        (List.all_eq_true.mp rfl)
        (stops_moreTargets targets ends) units
    rw [show moreTargets (target :: targets) ++ rest
        = ',' :: ' ' :: (target.toList ++ (moreTargets targets ++ rest)) by simp [moreTargets],
      comma, named, ih (List.forall_mem_cons.mp areNames).2]
    simp

/-- The command of an arm. -/
theorem unitsRead_command (unit : RawUnit) (pattern : Token) {command : String}
    (closed : '\x60' ∉ command.toList) (units : List RawUnit) (rest : List Char) :
    unitsRead (.arrowed unit pattern) units (' ' :: '\x60' :: (command.toList ++ '\x60' :: rest))
      = unitsRead (.commanded unit pattern (commandWord command)) units rest := by
  have alone : (triedKinds [.shell, .name]).filter (·.mayStart '\x60') = [.shell] := by decide
  have layout : ∀ c ∈ [' '], isLayout c = true := List.all_eq_true.mp rfl
  exact unitsRead_go layout alone rfl (lexeme?_shell closed) rfl units

/-- The calls of an arm, behind an arrow. -/
theorem unitsRead_targets {pattern : Token} {command : Option Token}
    (expects : state.expected = [.name] ∨ state.expected = [.shell, .name])
    (goes : ∀ target, state.accept (nameWord target)
      = .go (.called unit pattern command [nameWord target])) (areTargets : AreTargets targets)
    (units : List RawUnit) (ends : Stops isExportChar rest) :
    unitsRead state units (' ' :: ((String.intercalate ", " targets).toList ++ rest))
      = unitsRead (.called unit pattern command (targets.map nameWord)) units rest := by
  obtain ⟨nonempty, areNames⟩ := areTargets
  cases targets with
  | nil => exact absurd rfl nonempty
  | cons target targets =>
    have named : unitsRead state units ([' '] ++ (target.toList ++ (moreTargets targets ++ rest)))
        = unitsRead (.called unit pattern command [nameWord target]) units
          (moreTargets targets ++ rest) :=
      unitsRead_name expects (areNames target List.mem_cons_self) (goes target)
        (List.all_eq_true.mp rfl)
        (stops_moreTargets targets ends) units
    rw [toList_targets, List.append_assoc,
      show ' ' :: (target.toList ++ (moreTargets targets ++ rest))
        = [' '] ++ (target.toList ++ (moreTargets targets ++ rest)) from rfl, named,
      unitsRead_moreTargets unit pattern command
        (List.forall_mem_cons.mp areNames).2 _ units ends]
    rfl

/-- **An action** is read up to the end of its line. -/
theorem unitsRead_action (unit : RawUnit) (pattern : Token) {action : Action} (wellFormed : action.WellFormed)
    (units : List RawUnit) (ends : Stops isExportChar rest) :
    unitsRead (.arrowed unit pattern) units (' ' :: ((formatAction action).toList ++ rest))
      = unitsRead (afterAction unit pattern (actionWords action)) units rest := by
  cases action with
  | shell command =>
    have read := unitsRead_command unit pattern wellFormed units rest
    rw [show (formatAction (.shell command)).toList ++ rest
      = '\x60' :: (command.toList ++ '\x60' :: rest) by simp [formatAction], read]
    rfl
  | call targets =>
    exact unitsRead_targets (Or.inr rfl) (fun _ => rfl) wellFormed units ends
  | pipe command targets =>
    obtain ⟨isCommand, areTargets⟩ := wellFormed
    have arrow : unitsRead (.commanded unit pattern (commandWord command)) units
        (' ' :: '=' :: '>' :: ' ' :: ((String.intercalate ", " targets).toList ++ rest))
        = unitsRead (.calling unit pattern (some (commandWord command)) []) units
          (' ' :: ((String.intercalate ", " targets).toList ++ rest)) := by
      have alone : (triedKinds (.arrow :: .closeBrace :: patternKinds)).filter (·.mayStart '=')
          = [.arrow] := by decide
      have layout : ∀ c ∈ [' '], isLayout c = true := List.all_eq_true.mp rfl
      exact unitsRead_go layout alone rfl (lexeme?_arrow _) rfl units
    rw [show (formatAction (.pipe command targets)).toList ++ rest
        = '\x60' :: (command.toList ++ '\x60' :: ' ' :: '=' :: '>' :: ' ' ::
          ((String.intercalate ", " targets).toList ++ rest)) by simp [formatAction],
      unitsRead_command unit pattern isCommand units _, arrow]
    exact unitsRead_targets (Or.inl rfl) (fun _ => rfl) areTargets units ends

/-! ### Whole arms -/

/-- **An arm** is read up to the end of its line. -/
theorem unitsRead_arm (awaits : AwaitsArm state unit) {arm : Arm} (pattern : arm.pattern.WellFormed)
    (action : arm.action.WellFormed) (units : List RawUnit) (ends : LineEnd rest) :
    unitsRead state units ('\n' :: ((formatArm arm).toList ++ rest))
      = unitsRead (afterAction unit (patternWord arm.pattern) (actionWords arm.action)) units
        rest := by
  rw [show '\n' :: ((formatArm arm).toList ++ rest)
      = ['\n', ' ', ' ', ' ', ' '] ++ ((formatPattern arm.pattern).toList
        ++ ' ' :: '=' :: '>' :: (' ' :: ((formatAction arm.action).toList ++ rest))) by
    simp [formatArm], unitsRead_pattern awaits pattern (List.all_eq_true.mp rfl),
    unitsRead_action _ _ action units (ends.stops (by decide))]

/-- **The arms of a unit** are read one after the other, and the unit may be closed behind them. -/
theorem unitsRead_arms {arms : List Arm} (some_arm : arms ≠ [])
    (patterns : ∀ arm ∈ arms, arm.pattern.WellFormed) (actions : ∀ arm ∈ arms, arm.action.WellFormed)
    (awaits : AwaitsArm state unit) (units : List RawUnit) (ends : LineEnd rest) :
    ∃ before pattern action,
      before.addArm pattern action = { unit with arms := unit.arms ++ arms.map armWords } ∧
      unitsRead state units (below (arms.map fun arm => (formatArm arm).toList) ++ rest)
        = unitsRead (afterAction before pattern action) units rest := by
  induction arms generalizing state unit with
  | nil => exact absurd rfl some_arm
  | cons arm arms ih =>
    have first := fun goesOn : LineEnd (below (arms.map fun arm => (formatArm arm).toList) ++ rest) =>
      unitsRead_arm awaits (patterns arm List.mem_cons_self) (actions arm List.mem_cons_self) units
        goesOn
    by_cases last : arms = []
    · subst last
      exact ⟨unit, _, _, rfl, by simpa [below] using first ends⟩
    · have goesOn : LineEnd (below (arms.map fun arm => (formatArm arm).toList) ++ rest) := by
        obtain ⟨next, more, rfl⟩ := List.exists_cons_of_ne_nil last
        rw [List.map_cons, below_cons, List.cons_append]
        exact LineEnd.cons _
      obtain ⟨before, pattern, action, whole, read⟩ := ih last
        (List.forall_mem_cons.mp patterns).2
        (List.forall_mem_cons.mp actions).2 (.next unit _ _)
      refine ⟨before, pattern, action, ?_, ?_⟩
      · rw [whole, RawUnit.addArm, List.map_cons, List.append_assoc]
        rfl
      · rw [List.map_cons, below_cons, List.cons_append, List.append_assoc, first goesOn, read]

/-- The braces behind the arms complete a unit. -/
theorem unitsRead_close (unit : RawUnit) (pattern : Token) (action : RawAction)
    (units : List RawUnit) (rest : List Char) :
    unitsRead (afterAction unit pattern action) units
        ('\n' :: ' ' :: ' ' :: '}' :: '\n' :: '}' :: rest)
      = unitsRead .start (units ++ [unit.addArm pattern action]) rest := by
  have alone : (triedKinds (afterAction unit pattern action).expected).filter (·.mayStart '}')
      = [.closeBrace] := by
    cases action <;> rfl
  have goes : (afterAction unit pattern action).accept ⟨.closeBrace, ['}'], Place.first⟩
      = .go (.closing (unit.addArm pattern action)) := by
    rw [afterAction_accept unit pattern action ⟨by decide, by decide⟩]
    rfl
  have first : unitsRead (afterAction unit pattern action) units
      (['\n', ' ', ' '] ++ '}' :: '\n' :: '}' :: rest)
      = unitsRead (.closing (unit.addArm pattern action)) units (['\n'] ++ '}' :: rest) :=
    unitsRead_go (List.all_eq_true.mp rfl) alone rfl (lexeme?_closeBrace _) goes units
  have closing : (triedKinds [.closeBrace]).filter (·.mayStart '}') = [.closeBrace] := by decide
  have newline : ∀ c ∈ ['\n'], isLayout c = true := List.all_eq_true.mp rfl
  exact first.trans (unitsRead_complete newline closing rfl (lexeme?_closeBrace rest) rfl units)

/-! ### Headers -/

/-- The metadata of a unit in the order in which it is written. -/
def orderedTexts (unit : PromptUnit) : List (String × String) :=
  metadataKeys.filterMap fun key => (entryText? unit.entries key).map fun text => (key, text)

/-- A written entry as a word. -/
def entryWordOf (entry : String × String) : Token :=
  bareWord .entry (formatEntry entry.1 entry.2).toList

theorem opening_cons {c : Char} (solid : isBlank c = false) (other : c ≠ 'm') (rest : List Char) :
    Opening (c :: rest) := by
  refine ⟨Stops.cons solid _, ?_⟩
  have apart : dropPrefix? (c :: rest) "match".toList = none := by simp [dropPrefix?, other]
  rw [startsMatch, apart]

/-- An entry may stand behind another. -/
theorem opening_entry (known : key ∈ metadataKeys) (text : String) (rest : List Char) :
    Opening ((formatEntry key text).toList ++ rest) := by
  rw [toList_formatEntry, List.append_assoc]
  simp only [metadataKeys, List.mem_cons, List.not_mem_nil, or_false] at known
  rcases known with rfl | rfl | rfl | rfl
  · exact opening_cons (by decide) (by decide) _
  · exact opening_cons (by decide) (by decide) _
  · exact opening_cons (by decide) (by decide) _
  · exact opening_cons (by decide) (by decide) _

/-- **A word is cut off a written entry** where entries are expected. -/
theorem unitsRead_entryWord {reached : State}
    (expects : state.expected = [.entry] ∨ state.expected = [.entry, .openBrace]) {text : String}
    (known : key ∈ metadataKeys) {word left : List Char}
    (cut : Terminal.entry.lexeme? ((formatEntry key text).toList ++ rest) = some (word, left))
    (goes : state.accept (bareWord .entry word) = .go reached) (units : List RawUnit) :
    unitsRead state units ('\n' :: ((formatEntry key text).toList ++ rest))
      = unitsRead reached units left := by
  obtain ⟨first, isFirst, starts⟩ := (isSubject_of_known known).1
  have alone : (triedKinds state.expected).filter (·.mayStart first) = [.entry] := by
    have inName := isExportChar_of_start starts
    have notLayout := isLayout_of_isExportChar inName
    have notHash : first ≠ '#' := ne_of_isExportChar inName (by decide)
    have notBrace : first ≠ '{' := ne_of_isExportChar inName (by decide)
    rcases expects with expected | expected
    · rw [expected, show triedKinds [.entry] = [.entry, .blank, .comment] by decide]
      simp [Terminal.mayStart, starts, notLayout, notHash]
    · rw [expected, show triedKinds [.entry, .openBrace] = [.entry, .blank, .comment, .openBrace] by
        decide]
      simp [Terminal.mayStart, starts, notLayout, notHash, notBrace]
  cases written : (formatEntry key text).toList with
  | nil => simp [toList_formatEntry] at written
  | cons c tail =>
    have same : c = first := by
      have head : (formatEntry key text).toList.head? = some first := by
        rw [toList_formatEntry, List.head?_append, Option.mem_def.mp isFirst]
        rfl
      rw [written] at head
      exact Option.some.inj head
    rw [written] at cut
    rw [same] at cut ⊢
    have newline : ∀ d ∈ ['\n'], isLayout d = true := List.all_eq_true.mp rfl
    exact unitsRead_go newline alone rfl cut goes units

/-- Entries as they are written, one below the other. -/
def entryLines (texts : List (String × String)) : List (List Char) :=
  texts.map fun entry => (formatEntry entry.1 entry.2).toList

theorem below_entryLines_cons (entry : String × String) (texts : List (String × String))
    (rest : List Char) :
    below (entryLines (entry :: texts)) ++ rest
      = '\n' :: ((formatEntry entry.1 entry.2).toList ++ (below (entryLines texts) ++ rest)) := by
  rw [entryLines, List.map_cons, below_cons, List.cons_append, List.append_assoc]
  rfl

/-- What follows the name or an entry: the next entry, or what may stand behind all. -/
theorem exists_entryLines (known : ∀ entry ∈ texts, entry.1 ∈ metadataKeys) (opening : Opening rest) :
    ∃ next, Opening next ∧ below (entryLines texts) ++ '\n' :: rest = '\n' :: next := by
  cases texts with
  | nil => exact ⟨rest, opening, rfl⟩
  | cons entry texts =>
    exact ⟨_, opening_entry (known entry List.mem_cons_self) entry.2 _,
      below_entryLines_cons entry texts _⟩

/-- The state behind a name and entries. -/
def headerState (name : Token) : List Token → State
  | [] => .named name
  | entry :: entries => .described ⟨name, entry :: entries⟩

theorem headerState_expected (name : Token) (entries : List Token) :
    (headerState name entries).expected = [.entry] ∨
      (headerState name entries).expected = [.entry, .openBrace] := by
  cases entries with
  | nil => exact Or.inl rfl
  | cons entry entries => exact Or.inr rfl

theorem headerState_accept (name : Token) (entries : List Token) (word : List Char) :
    (headerState name entries).accept (bareWord .entry word)
      = .go (headerState name (entries ++ [bareWord .entry word])) := by
  cases entries with
  | nil => rfl
  | cons entry entries => rfl

theorem headerState_of_ne_nil (name : Token) {entries : List Token} (nonempty : entries ≠ []) :
    headerState name entries = .described ⟨name, entries⟩ := by
  cases entries with
  | nil => exact absurd rfl nonempty
  | cons entry entries => rfl

/-- **The entries of a unit** are read one after the other. -/
theorem unitsRead_entries (known : ∀ entry ∈ texts, entry.1 ∈ metadataKeys)
    (kept : ∀ entry ∈ texts, KeptByLayout entry.2.toList) (name : Token) (before : List Token)
    (units : List RawUnit) (opening : Opening rest) :
    unitsRead (headerState name before) units (below (entryLines texts) ++ '\n' :: rest)
      = unitsRead (headerState name (before ++ texts.map entryWordOf)) units ('\n' :: rest) := by
  induction texts generalizing before with
  | nil => rw [List.map_nil, List.append_nil]; rfl
  | cons entry texts ih =>
    have isKnown := known entry List.mem_cons_self
    have later : ∀ entry ∈ texts, entry.1 ∈ metadataKeys :=
      (List.forall_mem_cons.mp known).2
    obtain ⟨next, opensNext, follows⟩ := exists_entryLines later opening
    have cut := lexeme?_entry isKnown (kept entry List.mem_cons_self) opensNext
    rw [below_entryLines_cons, follows,
      unitsRead_entryWord (headerState_expected name before) isKnown cut
        (headerState_accept name before _) units, ← follows,
      ih later (List.forall_mem_cons.mp kept).2, List.append_assoc]
    rfl

/-- **The name and the entries of a unit.** -/
theorem unitsRead_header {name : String} (isName : IsName name.toList)
    (known : ∀ entry ∈ texts, entry.1 ∈ metadataKeys) (kept : ∀ entry ∈ texts, KeptByLayout entry.2.toList)
    (units : List RawUnit) (opening : Opening rest) :
    unitsRead .start units (name.toList ++ (below (entryLines texts) ++ '\n' :: rest))
      = unitsRead (headerState (nameWord name) (texts.map entryWordOf)) units ('\n' :: rest) := by
  obtain ⟨next, _, follows⟩ := exists_entryLines known opening
  have noGap : ∀ c ∈ ([] : List Char), isLayout c = true := by simp
  have named : unitsRead .start units (name.toList ++ '\n' :: next)
      = unitsRead (.named (nameWord name)) units ('\n' :: next) :=
    unitsRead_name (Or.inl rfl) isName rfl noGap (Stops.cons (by decide) _) units
  rw [follows, named, ← follows]
  exact unitsRead_entries known kept (nameWord name) [] units opening

/-- **The start of a match block**, up to its arms. -/
theorem unitsRead_open (header : Header) {subject : String} (isSubject : IsSubject subject.toList)
    (units : List RawUnit) (rest : List Char) :
    unitsRead (.described header) units
        ('\n' :: '{' :: '\n' :: ' ' :: ' ' :: 'm' :: 'a' :: 't' :: 'c' :: 'h' :: ' ' :: '$' ::
          (subject.toList ++ ' ' :: '{' :: rest))
      = unitsRead (.block ⟨header, bareWord .subject ('$' :: subject.toList), []⟩) units rest := by
  have opened : ∀ after, unitsRead (.described header) units (['\n'] ++ '{' :: after)
      = unitsRead (.opened header) units after :=
    fun after => unitsRead_go (List.all_eq_true.mp rfl)
      (by decide : (triedKinds [.entry, .openBrace]).filter (·.mayStart '{') = [.openBrace])
      rfl (lexeme?_openBrace after) rfl units
  have keyword : ∀ after, unitsRead (.opened header) units
      (['\n', ' ', ' '] ++ 'm' :: 'a' :: 't' :: 'c' :: 'h' :: after)
      = unitsRead (.matching header) units after :=
    fun after => unitsRead_go (List.all_eq_true.mp rfl)
      (by decide : (triedKinds [.matchWord]).filter (·.mayStart 'm') = [.matchWord])
      rfl (lexeme?_matchWord after) rfl units
  have variableRead : unitsRead (.matching header) units
      ([' '] ++ '$' :: (subject.toList ++ ' ' :: '{' :: rest))
      = unitsRead (.subject header (bareWord .subject ('$' :: subject.toList))) units
        ([' '] ++ '{' :: rest) :=
    unitsRead_go (List.all_eq_true.mp rfl) (by decide : (triedKinds [.subject]).filter (·.mayStart '$')
      = [.subject]) rfl (lexeme?_subject isSubject (Stops.cons (by decide) _)) rfl units
  have block : unitsRead (.subject header (bareWord .subject ('$' :: subject.toList))) units
      ([' '] ++ '{' :: rest)
      = unitsRead (.block ⟨header, bareWord .subject ('$' :: subject.toList), []⟩) units rest :=
    unitsRead_go (List.all_eq_true.mp rfl) (by decide : (triedKinds [.openBrace]).filter (·.mayStart '{')
      = [.openBrace]) rfl (lexeme?_openBrace rest) rfl units
  exact (opened _).trans ((keyword _).trans (variableRead.trans block))

/-! ### Whole units -/

theorem formatEntries_eq (unit : PromptUnit) :
    (formatEntries unit).map String.toList = entryLines (orderedTexts unit) := by
  unfold formatEntries entryLines orderedTexts
  rw [List.map_filterMap, List.map_filterMap]
  refine List.filterMap_congr fun key _ => ?_
  cases entryText? unit.entries key <;> rfl

theorem entryWords_eq (unit : PromptUnit) :
    entryWords unit = (orderedTexts unit).map entryWordOf := by
  unfold entryWords formatEntries orderedTexts
  rw [List.map_filterMap, List.map_filterMap]
  refine List.filterMap_congr fun key _ => ?_
  cases entryText? unit.entries key <;> rfl

/-- The entry whose text is found under a key. -/
theorem entryText?_eq_some {text : String} (found : entryText? entries key = some text) :
    ∃ entry ∈ entries, entry.key = key ∧ entry.text = text := by
  obtain ⟨entry, first, same⟩ := Option.map_eq_some_iff.mp found
  exact ⟨entry, List.mem_of_find?_eq_some first, by simpa using List.find?_some first, same⟩

/-- Where no key is given twice, the text of every entry is found. -/
theorem entryText?_of_mem (distinct : (entries.map MetaEntry.key).Nodup) {entry : MetaEntry}
    (member : entry ∈ entries) : entryText? entries entry.key = some entry.text := by
  induction entries with
  | nil => cases member
  | cons first entries ih =>
    obtain ⟨apart, distinct⟩ := List.nodup_cons.mp distinct
    rcases List.mem_cons.mp member with rfl | later
    · simp [entryText?]
    · have other : first.key ≠ entry.key := fun same =>
        apart (same ▸ List.mem_map_of_mem later)
      rw [entryText?, List.find?_cons_of_neg (by simpa using other)]
      exact ih distinct later

/-- **The ordered texts are the metadata of the unit**, each once. -/
theorem orderedTexts_perm {unit : PromptUnit} (wellFormed : unit.WellFormed) :
    (orderedTexts unit).Perm unit.keyTexts := by
  have keysOnce : (orderedTexts unit).Nodup := by
    refine List.Nodup.filterMap ?_ (by decide)
    intro key other pair found foundToo
    obtain ⟨_, _, rfl⟩ := Option.map_eq_some_iff.mp found
    obtain ⟨_, _, same⟩ := Option.map_eq_some_iff.mp foundToo
    exact (congrArg Prod.fst same).symm
  have textsOnce : unit.keyTexts.Nodup := by
    refine List.Nodup.of_map Prod.fst ?_
    rw [PromptUnit.keyTexts, List.map_map]
    exact wellFormed.distinct
  refine (List.perm_ext_iff_of_nodup keysOnce textsOnce).mpr fun pair => ?_
  constructor
  · intro member
    obtain ⟨key, _, found⟩ := List.mem_filterMap.mp member
    obtain ⟨text, first, rfl⟩ := Option.map_eq_some_iff.mp found
    obtain ⟨entry, isEntry, sameKey, sameText⟩ := entryText?_eq_some first
    exact List.mem_map.mpr ⟨entry, isEntry, by rw [sameKey, sameText]⟩
  · intro member
    obtain ⟨entry, isEntry, rfl⟩ := List.mem_map.mp member
    refine List.mem_filterMap.mpr ⟨entry.key, wellFormed.known entry isEntry, ?_⟩
    rw [entryText?_of_mem wellFormed.distinct isEntry]
    rfl

theorem forall_orderedTexts {unit : PromptUnit} (wellFormed : unit.WellFormed)
    {property : String × String → Prop}
    (each : ∀ entry ∈ unit.entries, property (entry.key, entry.text)) :
    ∀ pair ∈ orderedTexts unit, property pair := by
  intro pair member
  obtain ⟨entry, isEntry, rfl⟩ := List.mem_map.mp ((orderedTexts_perm wellFormed).mem_iff.mp member)
  exact each entry isEntry

theorem below_append (first second : List (List Char)) :
    below (first ++ second) = below first ++ below second := List.flatMap_append

theorem toList_intercalate_newline (parts : List String) :
    (String.intercalate "\n" parts).toList = unlines (parts.map String.toList) := by
  rw [unlines_eq_intercalate, String.toList_intercalate]
  rfl

/-- The match block of a unit as it is written, with the newline behind it. -/
def matchBlock (unit : PromptUnit) : List Char :=
  '{' :: '\n' :: ' ' :: ' ' :: 'm' :: 'a' :: 't' :: 'c' :: 'h' :: ' ' :: '$' ::
    (unit.subject.toList ++ ' ' :: '{' :: (below (unit.arms.map fun arm => (formatArm arm).toList)
      ++ ['\n', ' ', ' ', '}', '\n', '}', '\n']))

theorem opening_matchBlock (unit : PromptUnit) (rest : List Char) : Opening (matchBlock unit ++ rest) :=
  opening_cons (by decide) (by decide) _

/-- The text of a unit. -/
theorem toList_formatUnit (unit : PromptUnit) :
    (formatUnit unit).toList = unit.name.toList
      ++ (below (entryLines (orderedTexts unit)) ++ '\n' :: matchBlock unit) := by
  unfold formatUnit
  rw [String.toList_append, toList_intercalate_newline, List.cons_append, List.map_cons, unlines_cons,
    List.map_append, below_append, formatEntries_eq]
  simp [below, matchBlock, Function.comp_def]

/-- **A match block completes its unit.** -/
theorem unitsRead_matchBlock {unit : PromptUnit} (wellFormed : unit.WellFormed) (header : Header)
    (units : List RawUnit) (rest : List Char) :
    unitsRead (.described header) units ('\n' :: (matchBlock unit ++ rest))
      = unitsRead .start (units ++ [⟨header, bareWord .subject ('$' :: unit.subject.toList),
        unit.arms.map armWords⟩]) rest := by
  obtain ⟨before, pattern, action, whole, arms⟩ := unitsRead_arms wellFormed.someArm
    wellFormed.patterns wellFormed.actions
    (.first ⟨header, bareWord .subject ('$' :: unit.subject.toList), []⟩) units
    (LineEnd.cons (' ' :: ' ' :: '}' :: '\n' :: '}' :: '\n' :: rest))
  have newline : ∀ c ∈ ['\n'], isLayout c = true := List.all_eq_true.mp rfl
  have lastNewline : unitsRead .start (units ++ [before.addArm pattern action]) ('\n' :: rest)
      = unitsRead .start (units ++ [before.addArm pattern action]) rest :=
    unitsRead_layout _ _ newline rest
  simp only [matchBlock, List.append_assoc, List.cons_append, List.nil_append]
  rw [unitsRead_open _ wellFormed.subject, arms, unitsRead_close, lastNewline, whole]
  rfl

/-- **A written unit is read as its words.** -/
theorem unitsRead_formatUnit {unit : PromptUnit} (wellFormed : unit.WellFormed)
    (kept : ∀ entry ∈ unit.entries, KeptByLayout entry.text.toList) (units : List RawUnit)
    (rest : List Char) :
    unitsRead .start units ((formatUnit unit).toList ++ rest)
      = unitsRead .start (units ++ [unitWords unit]) rest := by
  have known : ∀ pair ∈ orderedTexts unit, pair.1 ∈ metadataKeys :=
    forall_orderedTexts wellFormed wellFormed.known
  have keptTexts : ∀ pair ∈ orderedTexts unit, KeptByLayout pair.2.toList :=
    forall_orderedTexts wellFormed kept
  have some_text : orderedTexts unit ≠ [] := by
    intro none_left
    have texts := orderedTexts_perm wellFormed
    rw [none_left] at texts
    exact wellFormed.someEntry (List.map_eq_nil_iff.mp (List.nil_perm.mp texts))
  rw [toList_formatUnit, List.append_assoc, List.append_assoc, List.cons_append,
    unitsRead_header wellFormed.name known keptTexts units (opening_matchBlock unit rest),
    headerState_of_ne_nil _ (by simpa using some_text), unitsRead_matchBlock wellFormed, ← entryWords_eq]
  rfl

/-- The words of a unit stand at the first place. -/
theorem unitWords_bare (unit : PromptUnit) : (unitWords unit).bare = unitWords unit := by
  have action : ∀ action, (actionWords action).bare = actionWords action := by
    intro action
    cases action <;> simp [actionWords, RawAction.bare, RawAction.moved, commandWord, nameWord, bareWord,
      Token.moved]
  simp [unitWords, RawUnit.bare, Header.bare, RawArm.bare, entryWords, nameWord, bareWord, Token.bare,
    armWords, patternWord, action]

/-- **Written units are read as their words**, one below the other. -/
theorem unitsRead_below {units : List PromptUnit} (wellFormed : ∀ unit ∈ units, unit.WellFormed)
    (kept : ∀ unit ∈ units, ∀ entry ∈ unit.entries, KeptByLayout entry.text.toList)
    (before : List RawUnit) (rest : List Char) :
    unitsRead .start before (below (units.map fun unit => (formatUnit unit).toList) ++ rest)
      = unitsRead .start (before ++ units.map unitWords) rest := by
  induction units generalizing before with
  | nil => rw [List.map_nil, List.map_nil, List.append_nil]; rfl
  | cons unit units ih =>
    have newline : ∀ text, unitsRead .start before ('\n' :: text) = unitsRead .start before text :=
      unitsRead_layout .start before (List.all_eq_true.mp (rfl : ['\n'].all isLayout = true))
    rw [List.map_cons, below_cons, List.cons_append, List.append_assoc, newline,
      unitsRead_formatUnit (wellFormed unit List.mem_cons_self) (kept unit List.mem_cons_self),
      ih (List.forall_mem_cons.mp wellFormed).2
        (List.forall_mem_cons.mp kept).2, List.append_assoc]
    rfl

/-- The first unit may stand below an empty line. -/
theorem unitsRead_formatUnits (units : List PromptUnit) (before : List RawUnit) :
    unitsRead .start before (formatUnits units).toList
      = unitsRead .start before (below (units.map fun unit => (formatUnit unit).toList)) := by
  cases units with
  | nil => simp [formatUnits, below]
  | cons unit units =>
    have newline : ∀ text, unitsRead .start before ('\n' :: text) = unitsRead .start before text :=
      unitsRead_layout .start before (List.all_eq_true.mp (rfl : ['\n'].all isLayout = true))
    rw [formatUnits, toList_intercalate_newline, List.map_map, List.map_cons, List.map_cons, unlines_cons,
      below_cons, newline]
    rfl

end PromptChain.Source
