/-
**What is read is well formed.**

Three steps lead from a source to the well-formedness of its units:

* `isWord_of_lexeme?`: a word that is cut off a text looks as words of its kind do;
* `runGrammar_invariant`: what every step of the grammar preserves holds of all units that it reads, and
  `Genuine` is such an invariant;
* `BuiltUnit.wellFormed`: units that are built from genuine words are well formed.

Main statement: `wellFormed_of_parseUnits`.
-/

import Mathlib.Data.List.Forall2
import PromptChain.Proofs.RoundTrip

namespace PromptChain.Source

open Text

variable {text rest : List Char} {token : Token} {action : RawAction} {origin : Option String}
  {word : List Char} {entries : List MetaEntry} {parts : List (List Char)} {words : RawUnit}
  {unit : PromptUnit} {units : List PromptUnit}

/-! ### The look of a word -/

/-- What is known of a word by its kind. -/
def IsWord : Terminal → List Char → Prop
  | .name, word => IsName word
  | .subject, word => ∃ name, word = '$' :: name ∧ IsSubject name
  | .shell, word => ∃ command, word = '\x60' :: (command ++ ['\x60']) ∧ '\x60' ∉ command
  | .slashRegex, word => ∃ source flags, word = '/' :: (source ++ '/' :: flags) ∧ source ≠ [] ∧
      isSlashBody source = true ∧ ∀ c ∈ flags, isFlagLetter c = true
  | .parenRegex, word => IsParenSource word
  | _, _ => True

/-- What stands before the slash that ends a regular expression. -/
theorem slashTail_eq_some (cut : slashTail text = some (word, rest)) :
    ∃ body, word = body ++ ['/'] ∧ isSlashBody body = true := by
  fun_induction slashTail text generalizing word with
  | case1 => cases cut
  | case2 after =>
    cases cut
    exact ⟨[], rfl, rfl⟩
  | case3 => cases cut
  | case4 c after notNewline ih =>
    obtain ⟨_, pushed, rfl⟩ := Cut.push_eq_some cut
    obtain ⟨inner, taken, rfl⟩ := Cut.push_eq_some pushed
    obtain ⟨body, rfl, isBody⟩ := ih taken
    refine ⟨'\\' :: c :: body, rfl, ?_⟩
    rw [isSlashBody, isBody, Bool.and_true, bne_iff_ne]
    exact notNewline
  | case5 => cases cut
  | case6 c after notSlash notEscape other ih =>
    obtain ⟨inner, taken, rfl⟩ := Cut.push_eq_some cut
    obtain ⟨body, rfl, isBody⟩ := ih taken
    simp only [Bool.or_eq_true, decide_eq_true_eq, not_or] at other
    refine ⟨c :: body, rfl, ?_⟩
    rw [isSlashBody, isBody]
    · simpa [other] using notSlash
    · intro d more same
      exact absurd same other.2

/-- What stands before the parenthesis that ends a regular expression. -/
theorem parenTail_eq_some (cut : parenTail text = some (word, rest)) :
    ∃ inner, word = inner ++ [')'] ∧ '\n' ∉ inner ∧
      ∀ before after, inner = before ++ ')' :: after → arrowFollows (after ++ ')' :: rest) = false := by
  fun_induction parenTail text generalizing word with
  | case1 => cases cut
  | case2 c after closes =>
    simp only [Bool.and_eq_true, decide_eq_true_eq] at closes
    cases cut
    refine ⟨[], by rw [closes.1]; rfl, by simp, ?_⟩
    intro before after split
    simp at split
  | case3 => cases cut
  | case4 c after goesOn notNewline ih =>
    obtain ⟨tail, taken, rfl⟩ := Cut.push_eq_some cut
    obtain ⟨inner, rfl, flat, unclosed⟩ := ih taken
    have whole := (parenTail_splits _ _ _ taken).2
    refine ⟨c :: inner, rfl, ?_, ?_⟩
    · rw [List.mem_cons, not_or]
      exact ⟨Ne.symm notNewline, flat⟩
    · intro before between split
      cases before with
      | nil =>
        obtain ⟨rfl, rfl⟩ := List.cons.inj split
        rw [List.append_assoc, List.singleton_append] at whole
        rw [whole]
        simpa using goesOn
      | cons d before =>
        obtain ⟨_, split⟩ := List.cons.inj split
        exact unclosed before between split

theorem shellTail_eq_some (cut : shellTail text = some (word, rest)) :
    ∃ command, word = command ++ ['\x60'] ∧ '\x60' ∉ command := by
  fun_induction shellTail text generalizing word with
  | case1 => cases cut
  | case2 after =>
    cases cut
    exact ⟨[], rfl, by simp⟩
  | case3 c after notBacktick ih =>
    obtain ⟨inner, taken, rfl⟩ := Cut.push_eq_some cut
    obtain ⟨command, rfl, closed⟩ := ih taken
    refine ⟨c :: command, rfl, ?_⟩
    rw [List.mem_cons, not_or]
    exact ⟨Ne.symm notBacktick, closed⟩

/-- A regular expression in parentheses ends at the first one that an arrow follows. -/
theorem isParenSource_of_tail {inner : List Char} (flat : '\n' ∉ inner)
    (unclosed : ∀ before after, inner = before ++ ')' :: after →
      arrowFollows (after ++ ')' :: rest) = false) : IsParenSource ('(' :: (inner ++ [')'])) where
  delimited := ⟨inner, rfl⟩
  flat := by simp [flat]
  unclosed := by
    intro before after split
    rcases List.eq_nil_or_concat' after with rfl | ⟨between, last, rfl⟩
    · decide
    · cases before with
      | nil =>
        obtain ⟨wrong, _⟩ := List.cons.inj split
        exact absurd wrong (by decide)
      | cons c before =>
        have tails : inner ++ [')'] = (before ++ ')' :: between) ++ [last] := by
          rw [List.append_assoc]
          exact (List.cons.inj split).2
        obtain ⟨same, isLast⟩ := List.append_inj' tails rfl
        rw [← (List.cons.inj isLast).1, ← arrowFollows_append_paren between rest]
        exact unclosed before between same

/-- **A word that is cut off a text looks as words of its kind do.** -/
theorem isWord_of_lexeme? {kind : Terminal} (cut : kind.lexeme? text = some (word, rest)) :
    IsWord kind word := by
  unfold Terminal.lexeme? at cut
  split at cut
  · trivial
  · cases cut
  · rename_i tail notTwo
    obtain ⟨⟨_, behind⟩, pushed, same⟩ := Option.map_eq_some_iff.mp cut
    obtain ⟨inner, taken, rfl⟩ := Cut.push_eq_some pushed
    cases same
    obtain ⟨body, rfl, isBody⟩ := slashTail_eq_some taken
    refine ⟨body, behind.takeWhile isFlagLetter, by simp, ?_, isBody,
      fun c member => List.mem_takeWhile_imp member⟩
    rintro rfl
    have whole := (slashTail_splits _ _ _ taken).2
    exact notTwo behind (by rw [← whole]; rfl)
  · split at cut
    · rename_i c tail start
      cases cut
      refine ⟨_, rfl, ⟨c, rfl, start⟩, ?_⟩
      rw [List.forall_mem_cons]
      exact ⟨isExportChar_of_start start, fun d member => List.mem_takeWhile_imp member⟩
    · cases cut
  · obtain ⟨tail, taken, rfl⟩ := Cut.push_eq_some cut
    obtain ⟨inner, rfl, flat, unclosed⟩ := parenTail_eq_some taken
    exact isParenSource_of_tail flat unclosed
  · trivial
  · split at cut
    · rename_i c tail inName
      cases cut
      refine ⟨by simp, ?_⟩
      rw [List.forall_mem_cons]
      exact ⟨inName, fun d member => List.mem_takeWhile_imp member⟩
    · cases cut
  · trivial
  · split at cut
    · rename_i c tail backtick
      obtain ⟨inner, taken, rfl⟩ := Cut.push_eq_some cut
      obtain ⟨command, rfl, closed⟩ := shellTail_eq_some taken
      exact ⟨command, by rw [backtick], closed⟩
    · cases cut
  · trivial
  · trivial
  · trivial
  · trivial
  · trivial
  · trivial
  · cases cut

/-! ### What a run of the grammar preserves -/

theorem firstWord?_eq_some {kinds : List Terminal} {kind : Terminal}
    (found : firstWord? text kinds = some (kind, word, rest)) :
    kind ∈ kinds ∧ kind.lexeme? text = some (word, rest) := by
  induction kinds with
  | nil => cases found
  | cons first kinds ih =>
    rw [firstWord?] at found
    split at found
    · rename_i cut
      cases found
      exact ⟨List.mem_cons_self, cut⟩
    · obtain ⟨member, cut⟩ := ih found
      exact ⟨List.mem_cons_of_mem _ member, cut⟩

/-- A word is cut off a text behind which another stands. -/
def CutFrom (text : List Char) (token : Token) (rest : List Char) : Prop :=
  ∃ tail, tail <:+ text ∧ token.kind.lexeme? tail = some (token.text, rest)

theorem CutFrom.rest_suffix (cut : CutFrom text token rest) :
    rest <:+ text := by
  obtain ⟨tail, inside, found⟩ := cut
  have whole := (Terminal.lexeme?_splits _ _ _ _ found).2
  exact List.IsSuffix.trans ⟨token.text, whole⟩ inside

theorem CutFrom.subset (cut : CutFrom text token rest) :
    token.text ⊆ text := by
  obtain ⟨tail, inside, found⟩ := cut
  have whole := (Terminal.lexeme?_splits _ _ _ _ found).2
  intro c member
  exact inside.subset (whole ▸ List.mem_append_left _ member)

/-- **The next word is of an expected kind**, and it is cut off the text. -/
theorem nextToken_eq_token {allowed : List Terminal} {cursor next : Cursor}
    (found : nextToken allowed cursor = .token token next) :
    token.kind ∈ allowed ∧ CutFrom cursor.rest token next.rest := by
  fun_induction nextToken allowed cursor with
  | case1 => cases found
  | case2 => cases found
  | case3 cursor nonempty kind word rest taken after ignored ih =>
    obtain ⟨member, tail, inside, cut⟩ := ih found
    have whole := (Terminal.lexeme?_splits _ _ _ _ (firstWord?_eq_some taken).2).2
    exact ⟨member, tail, inside.trans ⟨word, whole⟩, cut⟩
  | case4 cursor nonempty kind word rest taken after solid =>
    simp only [Scan.token.injEq] at found
    obtain ⟨rfl, rfl⟩ := found
    obtain ⟨tried, cut⟩ := firstWord?_eq_some taken
    have allowedKind : kind ∈ allowed := by
      have passes := (List.mem_filter.mp tried).2
      simpa [solid] using passes
    exact ⟨allowedKind, cursor.rest, List.suffix_rfl, cut⟩

/-- **What every step of the grammar preserves holds at the end of a run.** -/
theorem runGrammar_invariant (holds : State → List RawUnit → List Char → Prop)
    (go : ∀ {state units text token rest reached}, holds state units text →
      token.kind ∈ state.expected → CutFrom text token rest → state.accept token = .go reached →
      holds reached units rest)
    (complete : ∀ {state units text token rest unit}, holds state units text →
      token.kind ∈ state.expected → CutFrom text token rest → state.accept token = .complete unit →
      holds .start (units ++ [unit]) rest)
    {state : State} {last : Place} {units result : List RawUnit} {cursor : Cursor}
    (now : holds state units cursor.rest) (read : runGrammar state last units cursor = .ok result) :
    ∃ rest, holds .start result rest := by
  rw [runGrammar_eq] at read
  cases found : nextToken state.expected cursor with
  | stuck stuck => rw [found] at read; cases read
  | finish =>
    rw [found, afterScan] at read
    split at read
    · rename_i isStart
      cases read
      exact ⟨cursor.rest, isStart ▸ now⟩
    · cases read
  | token token next =>
    obtain ⟨expected, cut⟩ := nextToken_eq_token found
    have shorter := nextToken_length found
    rw [found, afterScan] at read
    split at read
    · rename_i accepted
      exact runGrammar_invariant holds go complete (go now expected cut accepted) read
    · rename_i accepted
      exact runGrammar_invariant holds go complete (complete now expected cut accepted) read
termination_by cursor.rest.length
decreasing_by
  · exact shorter
  · exact shorter

/-! ### Genuine words -/

/-- A word of a kind, whose characters are characters of a source. -/
structure Token.Genuine (source : List Char) (token : Token) (kind : Terminal) : Prop where
  isKind : token.kind = kind
  isWord : IsWord kind token.text
  inside : token.text ⊆ source

def Token.IsPattern (source : List Char) (token : Token) : Prop :=
  ∃ kind ∈ patternKinds, token.Genuine source kind

structure Header.Genuine (source : List Char) (header : Header) : Prop where
  name : header.name.Genuine source .name
  someEntry : header.entries ≠ []
  entries : ∀ entry ∈ header.entries, entry.Genuine source .entry

/-- Names of units to call, at least one. -/
def GenuineTargets (source : List Char) (targets : List Token) : Prop :=
  targets ≠ [] ∧ ∀ target ∈ targets, target.Genuine source .name

def RawAction.Genuine (source : List Char) : RawAction → Prop
  | .shell command => command.Genuine source .shell
  | .call targets => GenuineTargets source targets
  | .pipe command targets => command.Genuine source .shell ∧ GenuineTargets source targets

structure RawArm.Genuine (source : List Char) (arm : RawArm) : Prop where
  pattern : arm.pattern.IsPattern source
  action : arm.action.Genuine source

structure RawUnit.Genuine (source : List Char) (unit : RawUnit) : Prop where
  header : unit.header.Genuine source
  subject : unit.subject.Genuine source .subject
  arms : ∀ arm ∈ unit.arms, arm.Genuine source

/-- A complete unit has an arm. -/
structure RawUnit.Complete (source : List Char) (unit : RawUnit) : Prop where
  genuine : unit.Genuine source
  someArm : unit.arms ≠ []

/-- All words that have been read are genuine. -/
def State.Genuine (source : List Char) : State → Prop
  | .start => True
  | .named name => name.Genuine source .name
  | .described header | .opened header | .matching header => header.Genuine source
  | .subject header word => header.Genuine source ∧ word.Genuine source .subject
  | .block unit => unit.Genuine source
  | .patterned unit pattern | .arrowed unit pattern => unit.Genuine source ∧ pattern.IsPattern source
  | .commanded unit pattern command =>
    unit.Genuine source ∧ pattern.IsPattern source ∧ command.Genuine source .shell
  | .calling unit pattern command targets =>
    unit.Genuine source ∧ pattern.IsPattern source ∧ (∀ word ∈ command, word.Genuine source .shell) ∧
      ∀ target ∈ targets, target.Genuine source .name
  | .called unit pattern command targets =>
    unit.Genuine source ∧ pattern.IsPattern source ∧ (∀ word ∈ command, word.Genuine source .shell) ∧
      GenuineTargets source targets
  | .closing unit => unit.Complete source

variable {source : List Char}

theorem RawUnit.Genuine.addArm {unit : RawUnit} {pattern : Token} (genuine : unit.Genuine source)
    (isPattern : pattern.IsPattern source) (isAction : action.Genuine source) :
    (unit.addArm pattern action).Complete source := by
  refine ⟨⟨genuine.header, genuine.subject, ?_⟩, by simp [RawUnit.addArm]⟩
  intro arm member
  rcases List.mem_append.mp member with before | added
  · exact genuine.arms arm before
  · rw [List.mem_singleton.mp added]
    exact ⟨isPattern, isAction⟩

theorem genuine_callAction {command : Option Token} {targets : List Token}
    (isCommand : ∀ word ∈ command, word.Genuine source .shell)
    (areTargets : GenuineTargets source targets) : (callAction command targets).Genuine source := by
  cases command with
  | none => exact areTargets
  | some command => exact ⟨isCommand command rfl, areTargets⟩

/-- Behind a complete arm, the block ends or the next arm starts. -/
theorem genuine_afterArm {unit : RawUnit} (complete : unit.Complete source)
    (looks : token.Genuine source token.kind)
    (expected : token.kind = .closeBrace ∨ token.kind ∈ patternKinds) :
    (afterArm unit token).Genuine source := by
  unfold afterArm
  split
  · exact complete
  · rename_i notBrace
    exact ⟨complete.genuine, token.kind, expected.resolve_left notBrace, looks⟩

def Step.Genuine (source : List Char) : Step → Prop
  | .go state => state.Genuine source
  | .complete unit => unit.Complete source

/-- **A step of the grammar keeps words genuine.** -/
theorem State.Genuine.accept {state : State} (genuine : state.Genuine source)
    (looks : token.Genuine source token.kind) (expected : token.kind ∈ state.expected) :
    (state.accept token).Genuine source := by
  have only : ∀ {kind : Terminal}, token.kind = kind → token.Genuine source kind :=
    fun same => same ▸ looks
  cases state with
  | start => exact only (List.mem_singleton.mp expected)
  | named name =>
    refine ⟨genuine, by simp, ?_⟩
    simpa using only (List.mem_singleton.mp expected)
  | described header =>
    rw [State.accept]
    split
    · exact genuine
    · rename_i notBrace
      have isEntry : token.kind = .entry := by simpa [State.expected, notBrace] using expected
      refine ⟨genuine.name, by simp, ?_⟩
      intro entry member
      rcases List.mem_append.mp member with before | added
      · exact genuine.entries entry before
      · rw [List.mem_singleton.mp added]
        exact only isEntry
  | opened header => exact genuine
  | matching header => exact ⟨genuine, only (List.mem_singleton.mp expected)⟩
  | subject header word => exact ⟨genuine.1, genuine.2, by simp⟩
  | block unit => exact ⟨genuine, token.kind, expected, looks⟩
  | patterned unit pattern => exact genuine
  | arrowed unit pattern =>
    obtain ⟨isUnit, isPattern⟩ := genuine
    rw [State.accept]
    split
    · rename_i isShell
      exact ⟨isUnit, isPattern, only isShell⟩
    · rename_i notShell
      have isName : token.kind = .name := by simpa [State.expected, notShell] using expected
      exact ⟨isUnit, isPattern, by simp, by simp, by simpa using only isName⟩
  | commanded unit pattern command =>
    obtain ⟨isUnit, isPattern, isCommand⟩ := genuine
    rw [State.accept]
    split
    · exact ⟨isUnit, isPattern, by simpa using isCommand, by simp⟩
    · rename_i notArrow
      have isAction : (RawAction.shell command).Genuine source := isCommand
      refine genuine_afterArm (isUnit.addArm isPattern isAction) looks ?_
      simpa [State.expected, notArrow] using expected
  | calling unit pattern command targets =>
    obtain ⟨isUnit, isPattern, isCommand, areTargets⟩ := genuine
    refine ⟨isUnit, isPattern, isCommand, by simp, ?_⟩
    intro target member
    rcases List.mem_append.mp member with before | added
    · exact areTargets target before
    · rw [List.mem_singleton.mp added]
      exact only (List.mem_singleton.mp expected)
  | called unit pattern command targets =>
    obtain ⟨isUnit, isPattern, isCommand, areTargets⟩ := genuine
    rw [State.accept]
    split
    · exact ⟨isUnit, isPattern, isCommand, areTargets.2⟩
    · rename_i notComma
      refine genuine_afterArm (isUnit.addArm isPattern (genuine_callAction isCommand areTargets)) looks ?_
      simpa [State.expected, notComma] using expected
  | closing unit => exact genuine

/-- **All words of the units that are read are genuine.** -/
theorem complete_of_readUnits {units : List RawUnit} (read : readUnits source = .ok units) :
    ∀ unit ∈ units, unit.Complete source := by
  have looks : ∀ {text rest : List Char} {token : Token}, text <:+ source →
      CutFrom text token rest → token.Genuine source token.kind := by
    intro text rest token suffix cut
    have inside := cut.subset
    obtain ⟨_, _, found⟩ := cut
    exact ⟨rfl, isWord_of_lexeme? found, List.Subset.trans inside suffix.subset⟩
  have start : State.start.Genuine source ∧ (∀ unit ∈ ([] : List RawUnit), unit.Complete source) ∧
      source <:+ source := ⟨trivial, by simp, List.suffix_rfl⟩
  obtain ⟨_, _, complete, _⟩ := runGrammar_invariant
    (fun state units text =>
      state.Genuine source ∧ (∀ unit ∈ units, unit.Complete source) ∧ text <:+ source)
    (fun ⟨genuine, before, suffix⟩ expected cut accepted => by
      have step := genuine.accept (looks suffix cut) expected
      rw [accepted] at step
      exact ⟨step, before, cut.rest_suffix.trans suffix⟩)
    (fun ⟨genuine, before, suffix⟩ expected cut accepted => by
      have step := genuine.accept (looks suffix cut) expected
      rw [accepted] at step
      refine ⟨trivial, ?_, cut.rest_suffix.trans suffix⟩
      intro unit member
      rcases List.mem_append.mp member with old | added
      · exact before unit old
      · rw [List.mem_singleton.mp added]
        exact step)
    start read
  exact complete

/-! ### Units from genuine words -/

/-- A letter behind a regular expression is a flag. -/
theorem outerFlags_of_letters (flags : Regex.Flags) {letters : List Char}
    (areFlags : ∀ c ∈ letters, isFlagLetter c = true) : ∃ all, outerFlags flags letters = .ok all := by
  induction letters generalizing flags with
  | nil => exact ⟨flags, rfl⟩
  | cons letter letters ih =>
    have isFlag : ∃ flag, outerFlag? letter = some flag := by
      have known := areFlags letter List.mem_cons_self
      simp only [isFlagLetter, Bool.or_eq_true, beq_iff_eq] at known
      rcases known with ((rfl | rfl) | rfl) | rfl
      · exact ⟨_, rfl⟩
      · exact ⟨_, rfl⟩
      · exact ⟨_, rfl⟩
      · exact ⟨_, rfl⟩
    obtain ⟨flag, found⟩ := isFlag
    rw [outerFlags, found]
    exact ih _ (List.forall_mem_cons.mp areFlags).2

/-- A regular expression that is built can be used. -/
theorem usable_of_buildRegex {place : Place} {source flags : String} {delimiter : Delimiter}
    (letters : ∀ c ∈ flags.toList, isFlagLetter c = true) {pattern : Pattern}
    (built : buildRegex origin place source flags delimiter = .ok pattern) :
    pattern = .regex source flags delimiter ∧ pattern.failure?.isNone = true := by
  obtain ⟨all, known⟩ := outerFlags_of_letters {} letters
  unfold buildRegex at built
  split at built
  · rename_i compiled
    cases built
    simp [Pattern.failure?, compiled]
  · rename_i letter unknown
    simp only [compileRegex, known] at unknown
    split at unknown <;> cases unknown
  · cases built
  · cases built

theorem slashParts_word {source flags : List Char} (letters : ∀ c ∈ flags, isFlagLetter c = true) :
    slashParts ('/' :: (source ++ '/' :: flags)) = (String.ofList source, String.ofList flags) := by
  have written := toList_formatPattern_slash (String.ofList source) (String.ofList flags)
  rw [String.toList_ofList, String.toList_ofList] at written
  rw [← written]
  exact slashParts_formatPattern (by rwa [String.toList_ofList])

/-- **A pattern that is built from a genuine word is well formed.** -/
theorem wellFormed_of_buildPattern (isPattern : token.IsPattern source) {pattern : Pattern}
    (built : buildPattern origin token = .ok pattern) : pattern.WellFormed := by
  obtain ⟨kind, member, genuine⟩ := isPattern
  unfold buildPattern at built
  rw [genuine.isKind] at built
  have word := genuine.isWord
  simp only [patternKinds, List.mem_cons, List.not_mem_nil, or_false] at member
  rcases member with rfl | rfl | rfl
  · cases built
    trivial
  · obtain ⟨rfl, usable⟩ := usable_of_buildRegex (by simp) built
    exact ⟨by rwa [String.toList_ofList], rfl, usable⟩
  · obtain ⟨source, flags, same, nonempty, isBody, letters⟩ := word
    simp only [same, slashParts_word letters] at built
    obtain ⟨rfl, usable⟩ := usable_of_buildRegex (by rwa [String.toList_ofList]) built
    exact ⟨by rwa [String.toList_ofList], by rwa [String.toList_ofList],
      by rwa [String.toList_ofList], usable⟩

theorem isCommand_commandOf (genuine : token.Genuine source .shell) :
    IsCommand (commandOf token).toList := by
  obtain ⟨command, same, closed⟩ := genuine.isWord
  rw [commandOf, same, String.toList_ofList, List.drop_succ_cons, List.drop_zero, List.dropLast_concat]
  exact closed

theorem areTargets_of_genuine {targets : List Token} (genuine : GenuineTargets source targets) :
    AreTargets (targets.map Token.string) := by
  obtain ⟨nonempty, areNames⟩ := genuine
  refine ⟨by simpa using nonempty, ?_⟩
  intro target member
  obtain ⟨token, isTarget, rfl⟩ := List.mem_map.mp member
  rw [Token.string, String.toList_ofList]
  exact (areNames token isTarget).isWord

theorem wellFormed_buildAction (genuine : action.Genuine source) :
    (buildAction action).WellFormed := by
  cases action with
  | shell command => exact isCommand_commandOf genuine
  | call targets => exact areTargets_of_genuine genuine
  | pipe command targets => exact ⟨isCommand_commandOf genuine.1, areTargets_of_genuine genuine.2⟩

/-- What stands in the second of two lists that are related member by member. -/
theorem exists_of_forall₂ {α β : Type} {related : α → β → Prop} {first : List α} {second : List β}
    (all : List.Forall₂ related first second) {two : β} (member : two ∈ second) :
    ∃ one ∈ first, related one two := by
  induction all with
  | nil => cases member
  | cons head _ ih =>
    rcases List.mem_cons.mp member with rfl | later
    · exact ⟨_, List.mem_cons_self, head⟩
    · obtain ⟨one, isMember, holds⟩ := ih later
      exact ⟨one, List.mem_cons_of_mem _ isMember, holds⟩

/-- The arms that are built, one for each of the arms that are read. -/
theorem forall₂_of_buildArms {words : List RawArm} {arms : List Arm}
    (built : buildArms origin words = .ok arms) :
    List.Forall₂ (fun word arm => buildPattern origin word.pattern = .ok arm.pattern ∧
      arm.action = buildAction word.action) words arms := by
  induction words generalizing arms with
  | nil =>
    cases built
    exact List.Forall₂.nil
  | cons word words ih =>
    rw [buildArms] at built
    split at built
    · cases built
    · rename_i pattern isPattern
      split at built
      · cases built
      · rename_i rest isRest
        cases built
        exact List.Forall₂.cons ⟨isPattern, rfl⟩ (ih isRest)

/-- What the entries of a unit are, once they are built: the values of their words, with known keys, no
key twice, and all backticks closed. -/
structure BuiltEntries (words : List Token) (entries : List MetaEntry) : Prop where
  values : entries = words.map entryOf
  known : ∀ entry ∈ entries, entry.key ∈ metadataKeys
  distinct : (entries.map MetaEntry.key).Nodup
  closed : ∀ entry ∈ entries, Even (entry.text.toList.count '\x60')

theorem builtEntries_append {unit : String} {old : List Token} {before : List MetaEntry}
    (soFar : BuiltEntries old before) {words : List Token}
    (built : buildEntries origin unit before words = .ok entries) :
    BuiltEntries (old ++ words) entries := by
  induction words generalizing old before with
  | nil =>
    cases built
    rwa [List.append_nil]
  | cons word words ih =>
    rw [buildEntries] at built
    simp only at built
    split at built
    · cases built
    · rename_i isKnown
      split at built
      · cases built
      · rename_i isNew
        split at built
        · cases built
        · rename_i isClosed
          have next : BuiltEntries (old ++ [word]) (before ++ [entryOf word]) := by
            refine ⟨by rw [soFar.values, List.map_append, List.map_singleton], ?_, ?_, ?_⟩
            · intro entry member
              rcases List.mem_append.mp member with earlier | added
              · exact soFar.known entry earlier
              · rw [List.mem_singleton.mp added]
                simpa using isKnown
            · rw [List.map_append, List.nodup_append]
              refine ⟨soFar.distinct, by simp, ?_⟩
              intro key earlier other added same
              obtain ⟨entry, member, rfl⟩ := List.mem_map.mp earlier
              rw [List.map_singleton, List.mem_singleton] at added
              refine isNew (List.any_eq_true.mpr ⟨entry, member, ?_⟩)
              rw [beq_iff_eq, same, added]
            · intro entry member
              rcases List.mem_append.mp member with earlier | added
              · exact soFar.closed entry earlier
              · rw [List.mem_singleton.mp added, ← parse?_isSome]
                simpa [Option.isSome_iff_ne_none] using isClosed
          have whole := ih next built
          rwa [List.append_assoc] at whole

/-- **The entries that are built.** -/
theorem builtEntries_of_buildEntries {unit : String} {words : List Token}
    (built : buildEntries origin unit [] words = .ok entries) : BuiltEntries words entries := by
  have nothing : BuiltEntries [] [] := ⟨rfl, by simp, by simp, by simp⟩
  exact builtEntries_append nothing built

/-- A character of the lines of a text is one of the text, but for the newlines between them. -/
theorem exists_line_of_mem_unlines {c : Char} (notNewline : c ≠ '\n') (member : c ∈ unlines parts) :
    ∃ line ∈ parts, c ∈ line := by
  induction parts with
  | nil => cases member
  | cons line parts ih =>
    rw [unlines_cons] at member
    rcases List.mem_append.mp member with here | below
    · exact ⟨line, List.mem_cons_self, here⟩
    · obtain ⟨other, isLine, inside⟩ := List.mem_flatMap.mp below
      exact ⟨other, List.mem_cons_of_mem _ isLine, (List.mem_cons.mp inside).resolve_left notNewline⟩

theorem dropEndWhile_subset (test : Char → Bool) (text : List Char) : dropEndWhile test text ⊆ text := by
  rw [dropEndWhile_eq_rdropWhile]
  exact (List.rdropWhile_prefix _ _).subset

theorem trim_subset (text : List Char) : trim text ⊆ text := by
  unfold trim trimStart trimEnd
  exact List.Subset.trans (dropEndWhile_subset _ _) (List.dropWhile_suffix _).subset

theorem unquote_subset (text : List Char) : unquote text ⊆ text := by
  unfold unquote
  split
  · exact List.Subset.trans (List.dropLast_sublist _).subset (List.drop_subset _ _)
  · exact List.Subset.refl _

theorem stripNewlines_subset (text : List Char) : stripNewlines text ⊆ text :=
  List.Subset.trans (dropEndWhile_subset _ _) (List.dropWhile_suffix _).subset

/-- A line without the common indentation is a part of the line. -/
theorem exists_line_of_mem_dedentLines {line : List Char} (member : line ∈ dedentLines parts) :
    ∃ whole ∈ parts, line ⊆ whole := by
  have cleared : ∀ other ∈ parts.map clearIndentOnly, ∃ whole ∈ parts, other ⊆ whole := by
    intro other isLine
    obtain ⟨whole, isPart, rfl⟩ := List.mem_map.mp isLine
    refine ⟨whole, isPart, ?_⟩
    unfold clearIndentOnly
    split
    · exact List.nil_subset _
    · exact List.Subset.refl _
  unfold dedentLines at member
  simp only at member
  split at member
  · exact cleared line member
  · obtain ⟨other, isLine, rfl⟩ := List.mem_map.mp member
    obtain ⟨whole, isPart, inside⟩ := cleared other isLine
    exact ⟨whole, isPart, List.Subset.trans (List.drop_subset _ _) inside⟩

/-- **A metadata text has no characters but those of its value** and newlines. -/
theorem mem_of_mem_entryText {c : Char} (notNewline : c ≠ '\n') {value : List Char}
    (member : c ∈ entryText value) : c ∈ value := by
  unfold entryText at member
  obtain ⟨line, isLine, inLine⟩ := exists_line_of_mem_unlines notNewline
    (stripNewlines_subset _ (unquote_subset _ member))
  obtain ⟨whole, isPart, rfl⟩ := List.mem_map.mp isLine
  have inside : c ∈ whole := dropEndWhile_subset _ _ inLine
  rcases List.mem_append.mp isPart with first | below
  · split at first
    · cases first
    · rw [List.mem_singleton.mp first] at inside
      exact (List.takeWhile_prefix _).subset (trim_subset _ inside)
  · split at below
    · cases below
    · have inTail := mem_of_mem_lines inside below
      obtain ⟨other, isOther, inOther⟩ := exists_line_of_mem_unlines notNewline inTail
      obtain ⟨original, isOriginal, subset⟩ := exists_line_of_mem_dedentLines isOther
      have inValue := mem_of_mem_lines (subset inOther) isOriginal
      exact (List.dropWhile_suffix _).subset (List.drop_subset _ _ inValue)

theorem entryOf_noReturn {word : Token} (noReturn : '\r' ∉ word.text) :
    '\r' ∉ (entryOf word).text.toList := by
  intro member
  rw [entryOf, String.toList_ofList] at member
  have inValue := mem_of_mem_entryText (by decide) member
  exact noReturn ((List.dropWhile_suffix _).subset (List.drop_subset _ _ inValue))

/-- What a unit is built from. -/
structure BuiltUnit (origin : Option String) (words : RawUnit) (unit : PromptUnit) : Prop where
  name : unit.name = words.header.name.string
  subject : unit.subject = String.ofList (words.subject.text.drop 1)
  entries : BuiltEntries words.header.entries unit.entries
  arms : List.Forall₂ (fun word arm => buildPattern origin word.pattern = .ok arm.pattern ∧
    arm.action = buildAction word.action) words.arms unit.arms
  /-- The metadata has not been checked. -/
  unchecked : unit.metadata = none

theorem builtUnit_of_buildUnit (built : buildUnit origin words = .ok unit) :
    BuiltUnit origin words unit := by
  unfold buildUnit at built
  split at built
  · cases built
  · rename_i arms isArms
    simp only at built
    split at built
    · cases built
    · rename_i entries isEntries
      cases built
      exact ⟨rfl, rfl, builtEntries_of_buildEntries isEntries, forall₂_of_buildArms isArms, rfl⟩

/-- **A unit that is built from genuine words is well formed.** -/
theorem BuiltUnit.wellFormed (built : BuiltUnit origin words unit)
    (complete : words.Complete source) : unit.WellFormed where
  name := by
    rw [built.name, Token.string, String.toList_ofList]
    exact complete.genuine.header.name.isWord
  subject := by
    obtain ⟨name, same, isSubject⟩ := complete.genuine.subject.isWord
    rw [built.subject, same, String.toList_ofList]
    exact isSubject
  someEntry := by
    rw [built.entries.values]
    simpa using complete.genuine.header.someEntry
  known := built.entries.known
  distinct := built.entries.distinct
  closed := built.entries.closed
  someArm := by
    have armsLeft := List.length_pos_iff.mpr complete.someArm
    rw [built.arms.length_eq] at armsLeft
    exact List.length_pos_iff.mp armsLeft
  patterns := by
    intro arm member
    obtain ⟨word, isWord, isPattern, _⟩ := exists_of_forall₂ built.arms member
    exact wellFormed_of_buildPattern (complete.genuine.arms word isWord).pattern isPattern
  actions := by
    intro arm member
    obtain ⟨word, isWord, _, same⟩ := exists_of_forall₂ built.arms member
    rw [same]
    exact wellFormed_buildAction (complete.genuine.arms word isWord).action

/-- A command holds no characters but those of its word. -/
theorem subset_of_mem_commands (genuine : action.Genuine source) {command : String}
    (member : command ∈ (buildAction action).commands) : command.toList ⊆ source := by
  have inside : ∀ token : Token, token.Genuine source .shell → (commandOf token).toList ⊆ source := by
    intro token isShell
    rw [commandOf, String.toList_ofList]
    exact List.Subset.trans (List.dropLast_sublist _).subset
      (List.Subset.trans (List.drop_subset _ _) isShell.inside)
  cases action with
  | shell word =>
    rw [List.mem_singleton.mp member]
    exact inside word genuine
  | call targets => cases member
  | pipe word targets =>
    rw [List.mem_singleton.mp member]
    exact inside word genuine.1

/-- **A source without carriage returns gives units without them.** -/
theorem BuiltUnit.returnFree (built : BuiltUnit origin words unit)
    (complete : words.Complete source) (noReturn : '\r' ∉ source) : unit.ReturnFree where
  texts := by
    intro entry member
    rw [built.entries.values] at member
    obtain ⟨word, isWord, rfl⟩ := List.mem_map.mp member
    exact entryOf_noReturn fun inWord =>
      noReturn ((complete.genuine.header.entries word isWord).inside inWord)
  commands := by
    intro arm member command isCommand inCommand
    obtain ⟨word, isWord, _, same⟩ := exists_of_forall₂ built.arms member
    rw [same] at isCommand
    exact noReturn (subset_of_mem_commands (complete.genuine.arms word isWord).action isCommand
      inCommand)

/-- The units that are built, one for each of the units that are read. -/
theorem forall₂_of_buildUnits {words : List RawUnit} (built : buildUnits origin words = .ok units) :
    List.Forall₂ (fun word unit => buildUnit origin word = .ok unit) words units := by
  induction words generalizing units with
  | nil =>
    cases built
    exact List.Forall₂.nil
  | cons word words ih =>
    rw [buildUnits] at built
    split at built
    · cases built
    · rename_i first isFirst
      split at built
      · cases built
      · rename_i rest isRest
        cases built
        exact List.Forall₂.cons isFirst (ih isRest)

/-- The words from which units were built. -/
theorem exists_words_of_parseUnits {source : String} (parsed : parseUnits origin source = .ok units) :
    ∃ words, readUnits (normalizeNewlines source.toList) = .ok words ∧
      List.Forall₂ (BuiltUnit (origin.filter (· != ""))) words units := by
  unfold parseUnits at parsed
  simp only at parsed
  split at parsed
  · cases parsed
  · rename_i words read
    exact ⟨words, read, (forall₂_of_buildUnits parsed).imp fun _ _ => builtUnit_of_buildUnit⟩

theorem normalizeNewlines_of_notMem (noReturn : '\r' ∉ text) :
    normalizeNewlines text = text := by
  have whole := unpaired_of_notMem noReturn []
  rwa [List.append_nil, show normalizeNewlines [] = [] from rfl, List.append_nil] at whole

/-- **What is read is well formed.** -/
theorem wellFormed_of_parseUnits {source : String} (parsed : parseUnits origin source = .ok units) :
    ∀ unit ∈ units, unit.WellFormed := by
  obtain ⟨words, read, built⟩ := exists_words_of_parseUnits parsed
  intro unit member
  obtain ⟨word, isWord, fromWord⟩ := exists_of_forall₂ built member
  exact fromWord.wellFormed (complete_of_readUnits read word isWord)

theorem unchecked_of_parseUnits {source : String} (parsed : parseUnits origin source = .ok units) :
    ∀ unit ∈ units, unit.metadata = none := by
  obtain ⟨words, _, built⟩ := exists_words_of_parseUnits parsed
  intro unit member
  obtain ⟨word, _, fromWord⟩ := exists_of_forall₂ built member
  exact fromWord.unchecked

theorem returnFree_of_parseUnits {source : String} (noReturn : '\r' ∉ source.toList)
    (parsed : parseUnits origin source = .ok units) : ∀ unit ∈ units, unit.ReturnFree := by
  obtain ⟨words, read, built⟩ := exists_words_of_parseUnits parsed
  rw [normalizeNewlines_of_notMem noReturn] at read
  intro unit member
  obtain ⟨word, isWord, fromWord⟩ := exists_of_forall₂ built member
  exact fromWord.returnFree (complete_of_readUnits read word isWord) noReturn

end PromptChain.Source
