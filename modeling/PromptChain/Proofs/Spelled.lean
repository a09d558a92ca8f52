/-
**Whatever parses can be relied on.**

`PromptUnit.Spelled` says character by character what the parts of a unit look like: names and variables,
commands, sources of regular expressions and their letters. Every unit that is parsed is spelled so, and its
metadata is checked without surprises: each text is a template, so that reading the metadata succeeds or says
what is wrong with it, and the check of a unit never gets as far as an empty match block
(`parsed_units_are_spelled`).
-/

import PromptChain.Proofs.Load

namespace PromptChain

/-! ### Classes of characters -/

/-- A letter of the basic alphabet. -/
def IsBasicLetter (c : Char) : Prop := ('A' ≤ c ∧ c ≤ 'Z') ∨ ('a' ≤ c ∧ c ≤ 'z')

/-- A letter, a digit or a low line. -/
def IsWordChar (c : Char) : Prop := IsBasicLetter c ∨ ('0' ≤ c ∧ c ≤ '9') ∨ c = '_'

theorem isExportStart_iff (c : Char) : isExportStart c = true ↔ IsBasicLetter c ∨ c = '_' := by
  simp [isExportStart, IsBasicLetter]

theorem isExportChar_iff_isWordChar (c : Char) : isExportChar c = true ↔ IsWordChar c := by
  rw [isExportChar, Bool.or_eq_true, isExportStart_iff, IsWordChar, Bool.and_eq_true, decide_eq_true_eq,
    decide_eq_true_eq, or_assoc, or_comm (a := c = '_')]

/-- A word of letters, digits and low lines. -/
def IsSpelledName (text : List Char) : Prop := text ≠ [] ∧ ∀ c ∈ text, IsWordChar c

theorem IsName.spelled {text : List Char} (isName : IsName text) : IsSpelledName text :=
  ⟨isName.1, fun c member => (isExportChar_iff_isWordChar c).mp (isName.2 c member)⟩

/-! ### Escapes -/

/-- How many backslashes stand at the end of a text. -/
def trailingBackslashes (text : List Char) : Nat := (text.reverse.takeWhile (· == '\\')).length

theorem trailingBackslashes_cons (c : Char) (text : List Char) :
    trailingBackslashes (c :: text) = if trailingBackslashes text = text.length then
      text.length + (if c = '\\' then 1 else 0) else trailingBackslashes text := by
  unfold trailingBackslashes
  rw [List.reverse_cons, List.takeWhile_append, List.length_reverse]
  split
  · rw [List.length_append, List.length_reverse]
    by_cases isBackslash : c = '\\' <;> simp [isBackslash]
  · rfl

/-- **A slash in the body of a regular expression is escaped**: an odd number of backslashes stands before it. -/
theorem odd_trailingBackslashes {body : List Char} (isBody : isSlashBody body = true)
    {before after : List Char} (split : body = before ++ '/' :: after) : Odd (trailingBackslashes before) := by
  fun_induction isSlashBody body generalizing before with
  | case1 => simp at split
  | case2 c rest ih =>
    simp only [Bool.and_eq_true] at isBody
    rcases before with _ | ⟨first, _ | ⟨second, before⟩⟩
    · simp at split
    · simp only [List.cons_append, List.nil_append, List.cons.injEq] at split
      rw [← split.1]
      decide
    · simp only [List.cons_append, List.cons.injEq] at split
      have inner := ih isBody.2 split.2.2
      -- Two more characters in front count only if all are backslashes, and then they count for two.
      rw [trailingBackslashes_cons, trailingBackslashes_cons, ← split.1]
      by_cases whole : trailingBackslashes before = before.length
      · rw [whole] at inner
        by_cases isBackslash : second = '\\'
        · simp [whole, isBackslash, inner, parity_simps]
        · simp [whole, isBackslash, inner]
      · have bounded : trailingBackslashes before ≤ before.length := by
          simpa [trailingBackslashes] using (List.takeWhile_prefix (· == '\\') (l := before.reverse)).length_le
        rw [if_neg whole, if_neg (by simp; omega)]
        exact inner
  | case3 c rest notEscape ih =>
    simp only [Bool.and_eq_true, bne_iff_ne] at isBody
    rcases before with _ | ⟨first, before⟩
    · simp only [List.nil_append, List.cons.injEq] at split
      exact absurd split.1 isBody.1.1.1
    · simp only [List.cons_append, List.cons.injEq] at split
      have inner := ih isBody.2 split.2
      rw [trailingBackslashes_cons, ← split.1, if_neg isBody.1.1.2, Nat.add_zero]
      split_ifs with whole
      · rwa [← whole]
      · exact inner

/-! ### Units -/

/-- The look of a pattern. -/
def Pattern.Spelled : Pattern → Prop
  | .literal _ _ => True
  | .regex source flags .paren =>
    (∃ inner, source.toList = '(' :: (inner ++ [')'])) ∧ '\n' ∉ source.toList ∧ flags = ""
  | .regex source flags .slash =>
    source.toList ≠ [] ∧ '\n' ∉ source.toList ∧
      (∀ before after, source.toList = before ++ '/' :: after → Odd (trailingBackslashes before)) ∧
      ∀ c ∈ flags.toList, c ∈ ['i', 'm', 's', 'x']

theorem Pattern.WellFormed.spelled {pattern : Pattern} (wellFormed : pattern.WellFormed) :
    pattern.Spelled := by
  cases pattern with
  | literal => trivial
  | regex source flags delimiter =>
    cases delimiter with
    | paren => exact ⟨wellFormed.1.delimited, wellFormed.1.flat, wellFormed.2.1⟩
    | slash =>
      obtain ⟨someText, isBody, letters, _⟩ := wellFormed
      refine ⟨someText, Source.newline_notMem_of_isSlashBody isBody,
        fun before after split => odd_trailingBackslashes isBody split, fun c member => ?_⟩
      simpa [Source.isFlagLetter, or_assoc] using letters c member

/-- The look of names to call. -/
def AreSpelledNames (names : List String) : Prop := names ≠ [] ∧ ∀ name ∈ names, IsSpelledName name.toList

theorem AreTargets.spelled {targets : List String} (areTargets : AreTargets targets) :
    AreSpelledNames targets :=
  ⟨areTargets.1, fun target member => (areTargets.2 target member).spelled⟩

/-- The look of an action. -/
def Action.Spelled : Action → Prop
  | .shell command => '\x60' ∉ command.toList
  | .call targets => AreSpelledNames targets
  | .pipe command targets => '\x60' ∉ command.toList ∧ AreSpelledNames targets

theorem Action.WellFormed.spelled {action : Action} (wellFormed : action.WellFormed) : action.Spelled := by
  cases action with
  | shell command => exact wellFormed
  | call targets => exact AreTargets.spelled wellFormed
  | pipe command targets => exact ⟨wellFormed.1, wellFormed.2.spelled⟩

/-- The look of a unit. -/
structure PromptUnit.Spelled (unit : PromptUnit) : Prop where
  name : IsSpelledName unit.name.toList
  someEntry : unit.entries ≠ []
  known : ∀ entry ∈ unit.entries, entry.key ∈ ["description", "direction", "eager", "history"]
  distinct : (unit.entries.map MetaEntry.key).Nodup
  subject : ∃ first rest, unit.subject.toList = first :: rest ∧ (IsBasicLetter first ∨ first = '_') ∧
    ∀ c ∈ rest, IsWordChar c
  someArm : unit.arms ≠ []
  patterns : ∀ arm ∈ unit.arms, arm.pattern.Spelled
  actions : ∀ arm ∈ unit.arms, arm.action.Spelled

theorem PromptUnit.WellFormed.spelled {unit : PromptUnit} (wellFormed : unit.WellFormed) : unit.Spelled where
  name := wellFormed.name.spelled
  someEntry := wellFormed.someEntry
  known := wellFormed.known
  distinct := wellFormed.distinct
  subject := by
    obtain ⟨⟨first, isFirst, starts⟩, inName⟩ := wellFormed.subject
    obtain ⟨rest, whole⟩ := List.head?_eq_some_iff.mp isFirst
    rw [whole, List.forall_mem_cons] at inName
    exact ⟨first, rest, whole, (isExportStart_iff first).mp starts,
      fun c member => (isExportChar_iff_isWordChar c).mp (inName.2 c member)⟩
  someArm := wellFormed.someArm
  patterns := fun arm isArm => (wellFormed.patterns arm isArm).spelled
  actions := fun arm isArm => (wellFormed.actions arm isArm).spelled

/-! ### Checks -/

namespace Program

/-- The check of a unit by its metadata alone. -/
def checkMetadata (unit : PromptUnit) : UnitCheck :=
  match Metadata.ofEntries unit.entries with
  | .ok metadata => .passed metadata
  | .error failure => .refused (.invalidMetadata (failure.message unit.name) (locationOf unit))

/-- A well-formed unit is checked by its metadata alone. -/
theorem checkUnit_eq_checkMetadata {unit : PromptUnit} (wellFormed : unit.WellFormed) :
    checkUnit unit = checkMetadata unit := by
  unfold checkUnit checkMetadata
  rcases ofEntries_cases wellFormed with ⟨_, metadata, read⟩ | ⟨_, read | ⟨problems, read⟩⟩
  · simp [read, wellFormed.someArm]
  · rw [read]
  · rw [read]

theorem Tidy.analyze_ne_unreadable {program : Program} (tidy : program.Tidy) (strict : Bool) :
    (program.analyze strict).2 ≠ some .unreadableDirection := by
  obtain ⟨checked, passes, _⟩ := tidy.exists_checked
  rw [analyze, passes]
  dsimp only
  split <;> simp

end Program

/-- **Whatever parses is well formed.** Its units are spelled as they should be. Their texts are templates, so
that reading their metadata succeeds or tells what is wrong with it. When they are added to a program, the
metadata alone decides the check of each unit: none has an empty match block, or a direction that cannot be
read. -/
theorem parsed_units_are_spelled (origin : Option String) (source : String) (units : List PromptUnit)
    (parsed : Source.parseUnits origin source = .ok units) :
    (∀ unit ∈ units, unit.Spelled ∧
      (∀ entry ∈ unit.entries, ∃ template, Template.parse? entry.text = some template) ∧
      ((∃ metadata, Metadata.ofEntries unit.entries = .ok metadata) ∨
        Metadata.ofEntries unit.entries = .error .noDirection ∨
        ∃ problems, Metadata.ofEntries unit.entries = .error (.problems problems))) ∧
    ∀ program : Program, program.Filled →
      (∀ unit ∈ (program.addUnits units).loaded,
        unit.arms ≠ [] ∧ Program.checkUnit unit = Program.checkMetadata unit) ∧
      ∀ strict, ((program.addUnits units).analyze strict).2 ≠ some .unreadableDirection := by
  have wellFormed := Source.wellFormed_of_parseUnits parsed
  constructor
  · intro unit isUnit
    refine ⟨(wellFormed unit isUnit).spelled, fun entry isEntry => ?_, ?_⟩
    · have closed := (wellFormed unit isUnit).closed entry isEntry
      exact Option.isSome_iff_exists.mp ((Source.parse?_isSome entry.text).mpr closed)
    · rcases Program.ofEntries_cases (wellFormed unit isUnit) with ⟨_, valid⟩ | ⟨_, invalid⟩
      · exact Or.inl valid
      · exact Or.inr invalid
  · intro program filled
    have tidy := (filled.addUnits parsed).tidy
    refine ⟨fun unit isLoaded => ?_, tidy.analyze_ne_unreadable⟩
    have wellFormed := tidy.wellFormed (tidy.mem_loaded.mp isLoaded)
    exact ⟨wellFormed.someArm, Program.checkUnit_eq_checkMetadata wellFormed⟩

/-- A unit with each kind of pattern and of action. -/
def everyKindSource : String :=
  "A_1\neager: on\n\x7bmatch $_v\x7b\"\"=>`l`(a|b)=>B,c /\\/\\\\/ix=>`m`=>d\x7d\x7d"

/-- It is spelled as it should be, though its metadata is refused. -/
theorem everyKindSource_is_spelled : ∃ unit, Source.parseUnits none everyKindSource = .ok [unit] ∧
    unit.name = "A_1" ∧ unit.subject = "_v" ∧
    unit.rules = [(.literal "" false, .shell "l"), (.regex "(a|b)" "" .paren, .call ["B", "c"]),
      (.regex "\\/\\\\" "ix" .slash, .pipe "m" ["d"])] ∧
    unit.Spelled ∧ Metadata.ofEntries unit.entries = .error .noDirection := by
  have evaluated : (Source.parseUnits none everyKindSource).toOption.map (List.map fun unit =>
      (unit.name :: unit.subject :: unit.entries.map MetaEntry.key, unit.rules))
      = some [(["A_1", "_v", "eager"], [(.literal "" false, .shell "l"),
        (.regex "(a|b)" "" .paren, .call ["B", "c"]),
        (.regex "\\/\\\\" "ix" .slash, .pipe "m" ["d"])])] := by
    decide +kernel
  cases read : Source.parseUnits none everyKindSource with
  | error problem => rw [read] at evaluated; cases evaluated
  | ok units =>
    rw [read] at evaluated
    obtain ⟨unit, rfl, same⟩ := List.map_eq_singleton_iff.mp (Option.some.inj evaluated)
    simp only [Prod.mk.injEq, List.cons.injEq] at same
    obtain ⟨⟨name, subject, keys⟩, rules⟩ := same
    obtain ⟨spelled, _⟩ := (parsed_units_are_spelled none everyKindSource [unit] read).1 unit (by simp)
    obtain ⟨entry, single, isEager⟩ := List.map_eq_singleton_iff.mp keys
    refine ⟨unit, rfl, name, subject, rules, spelled, ?_⟩
    rw [single, Metadata.ofEntries, entryText?, List.find?_cons_of_neg (by rw [isEager]; decide)]
    rfl

end PromptChain
