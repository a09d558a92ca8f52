/-
**Reading undoes writing.**

The text of written units holds no line end of two characters (`normalizeNewlines_formatUnits`), the
grammar reads the words of the units from it, and `buildUnit_words` builds each unit again from its
words. A unit comes back with the same content: other places, and its metadata in the order of the
known keys.

Main statements: `parseUnits_formatUnits`, for units whose metadata texts are kept by their layout, and
`formatUnits_reads_back`, for units whose metadata texts are laid out plainly.
-/

import Mathlib.Algebra.Ring.Parity
import PromptChain.Proofs.WrittenUnits

namespace PromptChain.Source

open Text

variable {c : Char} {text : List Char} {units : List PromptUnit}

/-! ### Line ends of two characters -/

/-- No line end of two characters in a text, not even together with what follows it. -/
def Unpaired (text : List Char) : Prop :=
  ∀ rest, normalizeNewlines (text ++ rest) = text ++ normalizeNewlines rest

theorem Unpaired.append {first second : List Char} (one : Unpaired first) (two : Unpaired second) :
    Unpaired (first ++ second) := by
  intro rest
  rw [List.append_assoc, one, two, List.append_assoc]

theorem normalizeNewlines_cons (apart : c ≠ '\r' ∨ text.head? ≠ some '\n') :
    normalizeNewlines (c :: text) = c :: normalizeNewlines text := by
  unfold normalizeNewlines
  cases text with
  | nil => rfl
  | cons d text =>
    rw [replacePair, if_neg]
    rintro ⟨rfl, rfl⟩
    rcases apart with apart | apart
    · exact apart rfl
    · exact apart rfl

theorem unpaired_of_notMem (noReturn : '\r' ∉ text) : Unpaired text := by
  intro rest
  induction text with
  | nil => rfl
  | cons c text ih =>
    have other : c ≠ '\r' := fun same => noReturn (same ▸ List.mem_cons_self)
    rw [List.cons_append, normalizeNewlines_cons (Or.inl other),
      ih fun member => noReturn (List.mem_cons_of_mem _ member)]
    rfl

/-- A text on one line, with a character behind it. -/
theorem unpaired_flat (flat : '\n' ∉ text) (notNewline : c ≠ '\n') (notReturn : c ≠ '\r') :
    Unpaired (text ++ [c]) := by
  intro rest
  induction text with
  | nil => exact normalizeNewlines_cons (Or.inl notReturn)
  | cons d text ih =>
    have later : '\n' ∉ text := fun member => flat (List.mem_cons_of_mem _ member)
    have apart : (text ++ [c] ++ rest).head? ≠ some '\n' := by
      cases text with
      | nil => simpa using notNewline
      | cons e text => simpa using fun same : e = '\n' => later (same ▸ List.mem_cons_self)
    rw [List.cons_append, List.cons_append, normalizeNewlines_cons (Or.inr apart), ih later]
    rfl

theorem unpaired_below {parts : List (List Char)} (each : ∀ line ∈ parts, Unpaired line) :
    Unpaired (below parts) := by
  induction parts with
  | nil => exact fun rest => rfl
  | cons line parts ih =>
    have newline : Unpaired ['\n'] := unpaired_of_notMem (by decide)
    rw [below_cons]
    exact newline.append ((each line List.mem_cons_self).append
      (ih (List.forall_mem_cons.mp each).2))

/-! ### Carriage returns in written units -/

theorem isExportChar_noReturn (passes : ∀ c ∈ text, isExportChar c = true) :
    '\r' ∉ text := by
  intro member
  have wrong := passes _ member
  revert wrong
  decide

theorem newline_notMem_of_isSlashBody {body : List Char} (isBody : isSlashBody body = true) :
    '\n' ∉ body := by
  fun_induction isSlashBody body with
  | case1 => simp
  | case2 c body ih =>
    rw [Bool.and_eq_true, bne_iff_ne] at isBody
    simp [ih isBody.2, Ne.symm isBody.1]
  | case3 c body notEscape ih =>
    simp only [Bool.and_eq_true, bne_iff_ne] at isBody
    simp [ih isBody.2, Ne.symm isBody.1.2]

theorem unpaired_formatPattern {pattern : Pattern} (wellFormed : pattern.WellFormed) :
    Unpaired (formatPattern pattern).toList := by
  match pattern with
  | .literal text ignoreCase =>
    exact unpaired_of_notMem fun member => (ne_of_mem_formatPattern member).2 rfl
  | .regex source flags .slash =>
    obtain ⟨_, isBody, letters, _⟩ := wellFormed
    have noReturn : '\r' ∉ flags.toList := by
      intro member
      have wrong := letters _ member
      revert wrong
      decide
    have body : Unpaired (source.toList ++ ['/']) :=
      unpaired_flat (newline_notMem_of_isSlashBody isBody) (by decide) (by decide)
    have slash : Unpaired ['/'] := unpaired_of_notMem (by decide)
    have whole := slash.append (body.append (unpaired_of_notMem noReturn))
    rw [toList_formatPattern_slash]
    simpa using whole
  | .regex source flags .paren =>
    obtain ⟨isSource, _⟩ := wellFormed
    obtain ⟨inner, delimited⟩ := isSource.delimited
    have flat := isSource.flat
    rw [delimited, ← List.cons_append, List.mem_append, not_or] at flat
    rw [formatPattern, delimited, ← List.cons_append]
    exact unpaired_flat flat.1 (by decide) (by decide)

theorem unpaired_name {name : String} (isName : IsName name.toList) : Unpaired name.toList :=
  unpaired_of_notMem (isExportChar_noReturn isName.2)

theorem unpaired_command {command : String} (noReturn : '\r' ∉ command.toList) :
    Unpaired ('\x60' :: (command.toList ++ ['\x60'])) := by
  refine unpaired_of_notMem ?_
  simp [noReturn]

theorem unpaired_targets {targets : List String} (areTargets : AreTargets targets) :
    Unpaired (String.intercalate ", " targets).toList := by
  obtain ⟨nonempty, areNames⟩ := areTargets
  cases targets with
  | nil => exact absurd rfl nonempty
  | cons target targets =>
    have more : '\r' ∉ moreTargets targets := by
      intro member
      obtain ⟨other, isTarget, inside⟩ := List.mem_flatMap.mp member
      have outside := isExportChar_noReturn (areNames other (List.mem_cons_of_mem _ isTarget)).2
      simp [outside] at inside
    rw [toList_targets]
    exact (unpaired_name (areNames target List.mem_cons_self)).append (unpaired_of_notMem more)

theorem unpaired_formatAction {action : Action} (wellFormed : action.WellFormed)
    (noReturn : ∀ command ∈ action.commands, '\r' ∉ command.toList) :
    Unpaired (formatAction action).toList := by
  cases action with
  | shell command =>
    have written := unpaired_command (noReturn command List.mem_cons_self)
    simpa [formatAction] using written
  | call targets => exact unpaired_targets wellFormed
  | pipe command targets =>
    have arrow : Unpaired [' ', '=', '>', ' '] := unpaired_of_notMem (by decide)
    have written := (unpaired_command (noReturn command List.mem_cons_self)).append
      (arrow.append (unpaired_targets wellFormed.2))
    simpa [formatAction] using written

theorem unpaired_formatArm {arm : Arm} (pattern : arm.pattern.WellFormed)
    (action : arm.action.WellFormed)
    (noReturn : ∀ command ∈ arm.action.commands, '\r' ∉ command.toList) :
    Unpaired (formatArm arm).toList := by
  have indent : Unpaired [' ', ' ', ' ', ' '] := unpaired_of_notMem (by decide)
  have arrow : Unpaired [' ', '=', '>', ' '] := unpaired_of_notMem (by decide)
  have written := indent.append ((unpaired_formatPattern pattern).append
    (arrow.append (unpaired_formatAction action noReturn)))
  simpa [formatArm] using written

/-- A character of a line is a character of the text. -/
theorem mem_of_mem_lines {line : List Char} (inLine : c ∈ line) (isLine : line ∈ lines text) : c ∈ text := by
  have inside : ∀ parts : List (List Char), line ∈ parts → c ∈ unlines parts := by
    intro parts isPart
    induction parts with
    | nil => cases isPart
    | cons first parts ih =>
      rw [unlines_cons]
      rcases List.mem_cons.mp isPart with rfl | later
      · exact List.mem_append_left _ inLine
      · exact List.mem_append_right _ (List.mem_flatMap.mpr
          ⟨line, later, List.mem_cons_of_mem _ inLine⟩)
  have whole := inside _ isLine
  rwa [unlines_lines] at whole

theorem unpaired_formatEntry {key text : String} (known : key ∈ metadataKeys)
    (noReturn : '\r' ∉ text.toList) : Unpaired (formatEntry key text).toList := by
  have inKey := isExportChar_noReturn (isSubject_of_known known).2
  have inBlock : '\r' ∉ blockText (lines text.toList) := by
    intro member
    obtain ⟨line, isLine, inside⟩ := List.mem_flatMap.mp member
    have outside : '\r' ∉ line := fun inLine => noReturn (mem_of_mem_lines inLine isLine)
    unfold blockLine at inside
    split at inside
    · simp at inside
    · simp [outside] at inside
  refine unpaired_of_notMem ?_
  rw [toList_formatEntry, writtenValue]
  split
  · simp [inKey, inBlock]
  · simp [inKey, noReturn]

theorem unpaired_formatUnit {unit : PromptUnit} (wellFormed : unit.WellFormed)
    (returnFree : unit.ReturnFree) : Unpaired (formatUnit unit).toList := by
  have known : ∀ pair ∈ orderedTexts unit, pair.1 ∈ metadataKeys :=
    forall_orderedTexts wellFormed wellFormed.known
  have noReturn : ∀ pair ∈ orderedTexts unit, '\r' ∉ pair.2.toList :=
    forall_orderedTexts wellFormed returnFree.texts
  have entries : Unpaired (below (entryLines (orderedTexts unit))) := by
    refine unpaired_below fun line member => ?_
    obtain ⟨pair, isText, rfl⟩ := List.mem_map.mp member
    exact unpaired_formatEntry (known pair isText) (noReturn pair isText)
  have subject : Unpaired unit.subject.toList :=
    unpaired_of_notMem (isExportChar_noReturn wellFormed.subject.2)
  have arms : Unpaired (below (unit.arms.map fun arm => (formatArm arm).toList)) := by
    refine unpaired_below fun line member => ?_
    obtain ⟨arm, isArm, rfl⟩ := List.mem_map.mp member
    exact unpaired_formatArm (wellFormed.patterns arm isArm) (wellFormed.actions arm isArm)
      (returnFree.commands arm isArm)
  have opening : Unpaired "\n\x7b\n  match $".toList := unpaired_of_notMem (by decide)
  have block : Unpaired " \x7b".toList := unpaired_of_notMem (by decide)
  have closing : Unpaired "\n  \x7d\n\x7d\n".toList := unpaired_of_notMem (by decide)
  have written := (unpaired_name wellFormed.name).append (entries.append
    (opening.append (subject.append (block.append (arms.append closing)))))
  rw [toList_formatUnit, matchBlock]
  simpa using written

/-- **Written units are read as they stand**: their text has no line end of two characters. -/
theorem normalizeNewlines_formatUnits (wellFormed : ∀ unit ∈ units, unit.WellFormed)
    (returnFree : ∀ unit ∈ units, unit.ReturnFree) :
    normalizeNewlines (formatUnits units).toList = (formatUnits units).toList := by
  have unpaired : Unpaired (formatUnits units).toList := by
    have each : ∀ line ∈ units.map fun unit => (formatUnit unit).toList, Unpaired line := by
      intro line member
      obtain ⟨unit, isUnit, rfl⟩ := List.mem_map.mp member
      exact unpaired_formatUnit (wellFormed unit isUnit) (returnFree unit isUnit)
    rw [formatUnits, toList_intercalate_newline, List.map_map]
    cases units with
    | nil => exact fun rest => rfl
    | cons unit units =>
      rw [List.map_cons, List.forall_mem_cons] at each
      rw [List.map_cons, unlines_cons]
      exact each.1.append (unpaired_below each.2)
  have whole := unpaired []
  rwa [List.append_nil, show normalizeNewlines [] = [] from rfl, List.append_nil] at whole

/-! ### Closed backticks -/

theorem length_splitOnChar (separator : Char) (text : List Char) :
    (splitOnChar separator text).length = text.count separator + 1 := by
  induction text with
  | nil => rfl
  | cons c text ih =>
    rw [splitOnChar]
    by_cases same : c = separator
    · rw [if_pos same, List.length_cons, ih, List.count_cons, if_pos (by simp [same])]
    · rw [if_neg same]
      cases parts : splitOnChar separator text with
      | nil => simp [parts] at ih
      | cons part more =>
        simp only [parts, List.length_cons] at ih
        rw [List.count_cons, if_neg (by simpa using same), List.length_cons, ih, Nat.add_zero]

/-- Plain parts and commands take turns, and the last part is plain. -/
theorem segmentsOf?_isSome (parts : List (List Char)) :
    (Template.segmentsOf? parts).isSome = true ↔ Odd parts.length := by
  fun_induction Template.segmentsOf? parts with
  | case1 => simp
  | case2 plain => simp
  | case3 => simp
  | case4 plain command next rest ih =>
    rw [Option.isSome_map, ih]
    simp [Nat.odd_add_one]

/-- **A text is a template exactly when all its backticks are closed.** -/
theorem parse?_isSome (text : String) :
    (Template.parse? text).isSome = true ↔ Even (text.toList.count '\x60') := by
  rw [Template.parse?, Option.isSome_map, segmentsOf?_isSome, length_splitOnChar, Nat.odd_add_one,
    Nat.not_odd_iff_even]

/-! ### Units from their words -/

theorem kind_text_of_bare {token : Token} {kind : Terminal} (same : token.bare = bareWord kind text) :
    token.kind = kind ∧ token.text = text :=
  ⟨congrArg Token.kind same, congrArg Token.text same⟩

/-- A regular expression that can be used is built. -/
theorem buildRegex_of_usable (origin : Option String) (place : Place) {source flags : String}
    {delimiter : Delimiter} (usable : (Pattern.regex source flags delimiter).failure?.isNone) :
    buildRegex origin place source flags delimiter = .ok (.regex source flags delimiter) := by
  unfold Pattern.failure? at usable
  unfold buildRegex
  cases found : compileRegex source flags with
  | error failure => simp [found] at usable
  | ok compiled => rfl

/-- **A pattern is built again from its word.** -/
theorem buildPattern_word (origin : Option String) {token : Token} {pattern : Pattern}
    (wellFormed : pattern.WellFormed) (same : token.bare = patternWord pattern) :
    buildPattern origin token = .ok pattern := by
  obtain ⟨kind, text⟩ := kind_text_of_bare same
  unfold buildPattern
  rw [kind, text]
  match pattern with
  | .literal literal ignoreCase => exact congrArg _ (literalPattern_formatPattern literal ignoreCase)
  | .regex source flags .slash =>
    obtain ⟨_, _, letters, usable⟩ := wellFormed
    simp only [patternKind, slashParts_formatPattern letters]
    exact buildRegex_of_usable origin token.place usable
  | .regex source flags .paren =>
    obtain ⟨_, rfl, usable⟩ := wellFormed
    simp only [patternKind, formatPattern, String.ofList_toList]
    exact buildRegex_of_usable origin token.place usable

theorem buildAction_moved (move : Place → Place) (action : RawAction) :
    buildAction (action.moved move) = buildAction action := by
  have strings : ∀ targets : List Token,
      (targets.map (Token.moved move)).map Token.string = targets.map Token.string := by
    intro targets
    rw [List.map_map]
    rfl
  cases action with
  | shell command => rfl
  | call targets => rw [RawAction.moved, buildAction, buildAction, strings]
  | pipe command targets => rw [RawAction.moved, buildAction, buildAction, strings]; rfl

/-- **An action is built again from its words.** -/
theorem buildAction_words (action : Action) : buildAction (actionWords action) = action := by
  have command : ∀ command, commandOf (commandWord command) = command := by
    intro command
    simp [commandOf, commandWord, bareWord]
  have targets : ∀ targets : List String, (targets.map nameWord).map Token.string = targets := by
    intro targets
    rw [List.map_map]
    exact List.map_id'' (fun target => by simp [Token.string, nameWord, bareWord]) targets
  cases action with
  | shell _ => rw [actionWords, buildAction, command]
  | call _ => rw [actionWords, buildAction, targets]
  | pipe _ _ => rw [actionWords, buildAction, command, targets]

/-- **The arms of a unit are built again from their words.** -/
theorem buildArms_words (origin : Option String) {arms : List Arm}
    (patterns : ∀ arm ∈ arms, arm.pattern.WellFormed) {words : List RawArm}
    (same : words.map RawArm.bare = arms.map armWords) :
    ∃ again, buildArms origin words = .ok again ∧
      again.map (fun arm => (arm.pattern, arm.action)) = arms.map fun arm => (arm.pattern, arm.action) := by
  induction words generalizing arms with
  | nil =>
    rw [List.map_nil, eq_comm, List.map_eq_nil_iff] at same
    exact ⟨[], rfl, by rw [same]⟩
  | cons word words ih =>
    obtain ⟨arm, later, rfl, first, rest⟩ := List.map_eq_cons_iff.mp same.symm
    obtain ⟨again, built, content⟩ :=
      ih (List.forall_mem_cons.mp patterns).2 rest.symm
    have pattern : word.pattern.bare = patternWord arm.pattern := (congrArg RawArm.pattern first).symm
    have action : buildAction word.action = arm.action := by
      rw [← buildAction_moved, show word.action.moved (fun _ => Place.first) = actionWords arm.action from
        (congrArg RawArm.action first).symm, buildAction_words]
    rw [buildArms, buildPattern_word origin (patterns arm List.mem_cons_self) pattern]
    simp only [built]
    exact ⟨_, rfl, by rw [List.map_cons, List.map_cons, content, action]⟩

/-- **The entries of a unit are built again from their words.** -/
theorem buildEntries_words (origin : Option String) (unit : String) {texts : List (String × String)}
    (known : ∀ pair ∈ texts, pair.1 ∈ metadataKeys)
    (kept : ∀ pair ∈ texts, KeptByLayout pair.2.toList)
    (closed : ∀ pair ∈ texts, Even (pair.2.toList.count '\x60'))
    {before : List MetaEntry} (distinct : (before.map MetaEntry.key ++ texts.map Prod.fst).Nodup)
    {words : List Token} (same : words.map Token.bare = texts.map entryWordOf) :
    ∃ again, buildEntries origin unit before words = .ok (before ++ again) ∧
      again.map (fun entry => (entry.key, entry.text)) = texts := by
  induction words generalizing texts before with
  | nil =>
    rw [List.map_nil, eq_comm, List.map_eq_nil_iff] at same
    exact ⟨[], by rw [List.append_nil]; rfl, same.symm⟩
  | cons word words ih =>
    obtain ⟨pair, later, rfl, first, rest⟩ := List.map_eq_cons_iff.mp same.symm
    obtain ⟨kind, text⟩ := kind_text_of_bare first.symm
    have isKnown := known pair List.mem_cons_self
    have entry : entryOf word = ⟨pair.1, pair.2, word.place.line, word.place.column⟩ := by
      rw [← entryOf_formatEntry isKnown (kept pair List.mem_cons_self) word.place, ← kind, ← text]
    have contained : metadataKeys.contains pair.1 = true := List.contains_iff_mem.mpr isKnown
    have isNew : (before.any fun other => other.key == pair.1) = false := by
      rw [List.any_eq_false]
      intro other member twice
      rw [beq_iff_eq] at twice
      exact (List.nodup_append.mp distinct).2.2 _ (List.mem_map_of_mem member) _
        List.mem_cons_self twice
    have readable : (Template.parse? pair.2).isNone = false := by
      have isSome := (parse?_isSome pair.2).mpr (closed pair List.mem_cons_self)
      rw [Option.isNone_eq_false_iff, isSome]
    have distinctLater : ((before ++ [entryOf word]).map MetaEntry.key
        ++ later.map Prod.fst).Nodup := by
      rw [entry, List.map_append, List.append_assoc]
      exact distinct
    obtain ⟨again, built, content⟩ :=
      ih (List.forall_mem_cons.mp known).2
        (List.forall_mem_cons.mp kept).2
        (List.forall_mem_cons.mp closed).2 distinctLater rest.symm
    refine ⟨entryOf word :: again, ?_, ?_⟩
    · rw [buildEntries]
      simp only [entry, contained, isNew, readable] at built ⊢
      simpa using built
    · rw [List.map_cons, content, entry]

/-- **A unit is built again from its words.** -/
theorem buildUnit_words (origin : Option String) {unit : PromptUnit} (wellFormed : unit.WellFormed)
    (kept : ∀ entry ∈ unit.entries, KeptByLayout entry.text.toList) {words : RawUnit}
    (same : words.bare = unitWords unit) :
    ∃ again, buildUnit origin words = .ok again ∧ SameContent unit again := by
  have known : ∀ pair ∈ orderedTexts unit, pair.1 ∈ metadataKeys :=
    forall_orderedTexts wellFormed wellFormed.known
  have keptTexts : ∀ pair ∈ orderedTexts unit, KeptByLayout pair.2.toList :=
    forall_orderedTexts wellFormed kept
  have closed : ∀ pair ∈ orderedTexts unit, Even (pair.2.toList.count '\x60') :=
    forall_orderedTexts wellFormed wellFormed.closed
  have distinct : (([] : List MetaEntry).map MetaEntry.key ++ (orderedTexts unit).map Prod.fst).Nodup := by
    rw [List.map_nil, List.nil_append, ((orderedTexts_perm wellFormed).map Prod.fst).nodup_iff,
      PromptUnit.keyTexts, List.map_map]
    exact wellFormed.distinct
  have header : words.header.bare = ⟨nameWord unit.name, entryWords unit⟩ := congrArg RawUnit.header same
  obtain ⟨arms, builtArms, rules⟩ := buildArms_words origin wellFormed.patterns
    (congrArg RawUnit.arms same)
  obtain ⟨entries, builtEntries, content⟩ := buildEntries_words origin words.header.name.string known
    keptTexts closed distinct ((congrArg Header.entries header).trans (entryWords_eq unit))
  have name : words.header.name.string = unit.name := by
    rw [Token.string, (kind_text_of_bare (congrArg Header.name header)).2, String.ofList_toList]
  have subject : String.ofList (words.subject.text.drop 1) = unit.subject := by
    rw [(kind_text_of_bare (congrArg RawUnit.subject same)).2, List.drop_succ_cons, List.drop_zero,
      String.ofList_toList]
  unfold buildUnit
  simp only [builtArms, builtEntries]
  refine ⟨_, rfl, name, ?_, subject, rules⟩
  rw [PromptUnit.keyTexts, List.nil_append, content]
  exact orderedTexts_perm wellFormed

/-- Units are built one after the other. -/
theorem buildUnits_words (origin : Option String) (wellFormed : ∀ unit ∈ units, unit.WellFormed)
    (kept : ∀ unit ∈ units, ∀ entry ∈ unit.entries, KeptByLayout entry.text.toList) {words : List RawUnit}
    (same : words.map RawUnit.bare = units.map unitWords) :
    ∃ again, buildUnits origin words = .ok again ∧ List.Forall₂ SameContent units again := by
  induction words generalizing units with
  | nil =>
    rw [List.map_nil, eq_comm, List.map_eq_nil_iff] at same
    exact ⟨[], rfl, by rw [same]; exact List.Forall₂.nil⟩
  | cons word words ih =>
    obtain ⟨unit, later, rfl, first, rest⟩ := List.map_eq_cons_iff.mp same.symm
    obtain ⟨again, built, content⟩ := buildUnit_words origin (wellFormed unit List.mem_cons_self)
      (kept unit List.mem_cons_self) first.symm
    obtain ⟨others, builtOthers, contents⟩ :=
      ih (List.forall_mem_cons.mp wellFormed).2
        (List.forall_mem_cons.mp kept).2 rest.symm
    rw [buildUnits, built]
    simp only [builtOthers]
    exact ⟨_, rfl, List.Forall₂.cons content contents⟩

/-! ### Reading what was written -/

/-- **Reading undoes writing**, for units whose metadata texts are kept by their layout. -/
theorem parseUnits_formatUnits (origin : Option String) (wellFormed : ∀ unit ∈ units, unit.WellFormed)
    (returnFree : ∀ unit ∈ units, unit.ReturnFree)
    (kept : ∀ unit ∈ units, ∀ entry ∈ unit.entries, KeptByLayout entry.text.toList) :
    ∃ again, parseUnits origin (formatUnits units) = .ok again ∧
      List.Forall₂ SameContent units again := by
  have read : bareUnits (readUnits (formatUnits units).toList) = some (units.map unitWords) := by
    have words := unitsRead_below wellFormed kept [] []
    rw [List.append_nil] at words
    rw [bareUnits_readUnits, unitsRead_formatUnits, words, unitsRead_nil, List.nil_append, List.map_map]
    exact congrArg some (List.map_congr_left fun unit _ => unitWords_bare unit)
  unfold parseUnits
  rw [normalizeNewlines_formatUnits wellFormed returnFree]
  cases found : readUnits (formatUnits units).toList with
  | error malformed => rw [found] at read; cases read
  | ok words =>
    rw [found] at read
    exact buildUnits_words _ wellFormed kept (Option.some.inj read)

/-- **Reading undoes writing.** Well-formed units without carriage returns, whose metadata texts are laid
out plainly, come back from their text with the same names, metadata, variables, patterns and actions. -/
theorem formatUnits_reads_back (origin : Option String) (units : List PromptUnit)
    (wellFormed : ∀ unit ∈ units, unit.WellFormed) (returnFree : ∀ unit ∈ units, unit.ReturnFree)
    (plain : ∀ unit ∈ units, ∀ entry ∈ unit.entries, LaidOut entry.text.toList) :
    ∃ again, parseUnits origin (formatUnits units) = .ok again ∧
      List.Forall₂ SameContent units again :=
  parseUnits_formatUnits origin wellFormed returnFree fun unit isUnit entry isEntry =>
    keptByLayout_of_laidOut (plain unit isUnit entry isEntry)

/-- A unit with metadata below its key and on its line, and an arm of every kind. -/
def surveyUnit : PromptUnit where
  name := "Survey_1"
  entries := [⟨"direction", "Ask \x60whoami\x60:\n\n  yes or no?", 0, 0⟩, ⟨"description", "|", 0, 0⟩]
  subject := "AI"
  arms := [
    ⟨.literal "a \"b\"\r\n" true, .pipe "cat $M0" ["Survey_1", "2"], 0⟩,
    ⟨.regex "(y)" "" .paren, .call ["Survey_1"], 0⟩,
    ⟨.regex "n\\/o" "im" .slash, .shell "echo\n$M0", 0⟩]

theorem surveyUnit_wellFormed : surveyUnit.WellFormed where
  name := by decide
  subject := ⟨⟨'A', rfl, by decide⟩, List.all_eq_true.mp rfl⟩
  someEntry := by decide
  known := by decide
  distinct := by decide
  closed := by decide
  someArm := by decide
  patterns := by
    have unclosed : ∀ before after, ['(', 'y', ')'] = before ++ ')' :: after →
        arrowFollows after = false := by
      intro before after split
      obtain ⟨rfl, rfl⟩ : before = ['(', 'y'] ∧ after = [] := by
        simpa [List.cons_eq_append_iff] using split
      decide
    simp only [surveyUnit, List.forall_mem_cons, List.not_mem_nil, false_imp_iff, implies_true,
      and_true]
    exact ⟨trivial, ⟨⟨⟨['y'], rfl⟩, by decide, unclosed⟩, rfl, by decide +kernel⟩,
      by decide, by decide, List.all_eq_true.mp rfl, by decide +kernel⟩
  actions := by decide

theorem surveyUnit_returnFree : surveyUnit.ReturnFree := ⟨by decide, by decide⟩

theorem surveyUnit_laidOut : ∀ entry ∈ surveyUnit.entries, LaidOut entry.text.toList := by
  have direction : PlainLines "Ask \x60whoami\x60:\n\n  yes or no?".toList :=
    ⟨by decide, by decide, by decide, by decide, ⟨_, List.mem_cons_self, 'A', rfl, by decide⟩, by decide⟩
  simp only [surveyUnit, List.forall_mem_cons, List.not_mem_nil, false_imp_iff, implies_true, and_true]
  exact ⟨Or.inr (Or.inr direction), Or.inr (Or.inl (Or.inl rfl))⟩

/-- Two such units come back. -/
theorem surveyUnit_reads_back :
    (∀ unit ∈ [surveyUnit, surveyUnit], unit.WellFormed) ∧
      (∀ unit ∈ [surveyUnit, surveyUnit], unit.ReturnFree) ∧
      (∀ unit ∈ [surveyUnit, surveyUnit], ∀ entry ∈ unit.entries, LaidOut entry.text.toList) ∧
      ∃ again, parseUnits none (formatUnits [surveyUnit, surveyUnit]) = .ok again ∧
        List.Forall₂ SameContent [surveyUnit, surveyUnit] again := by
  have wellFormed : ∀ unit ∈ [surveyUnit, surveyUnit], unit.WellFormed := by
    simpa using surveyUnit_wellFormed
  have returnFree : ∀ unit ∈ [surveyUnit, surveyUnit], unit.ReturnFree := by
    simpa using surveyUnit_returnFree
  have plain : ∀ unit ∈ [surveyUnit, surveyUnit], ∀ entry ∈ unit.entries,
      LaidOut entry.text.toList := by
    simpa using surveyUnit_laidOut
  exact ⟨wellFormed, returnFree, plain, formatUnits_reads_back none _ wellFormed returnFree plain⟩

end PromptChain.Source
