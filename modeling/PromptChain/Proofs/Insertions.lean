/-
**Layout inside a match block carries no meaning.**

Blanks, line ends and comments can be put between any two words of a match block, but for a regular
expression in parentheses and its arrow. Two texts are compared that differ only behind some word of a
match block.

* The grammar reads the same words up to that place (`Leads.exchange`): the keyword that a metadata entry
  looks ahead for, and the arrow of a regular expression in parentheses, stand before it.
* From there on it reads the same words behind the layout (`nextToken_isGap`).
* Units are built from the same words at other places (`buildUnits_bare`).

Main statement: `parseUnits_insert`.
-/

import PromptChain.Proofs.Joined

namespace PromptChain

/-- An entry without its place. -/
def MetaEntry.bare (entry : MetaEntry) : MetaEntry := { entry with line := 0, column := 0 }

/-- An arm without its place. -/
def Arm.bare (arm : Arm) : Arm := { arm with line := 0 }

/-- A unit without the places of its parts. -/
def PromptUnit.bare (unit : PromptUnit) : PromptUnit :=
  { unit with
    entries := unit.entries.map MetaEntry.bare, arms := unit.arms.map Arm.bare, line := 0, column := 0 }

namespace Source

open Text

variable {token : Token} {cursor next : Cursor} {state : State} {front : List Char} {origin : Option String}

/-! ### Layout and comments -/

/-- Blanks, tabs, form feeds, newlines, and comments with the newlines that end them. -/
inductive IsGap : List Char → Prop
  | nil : IsGap []
  | blank {c : Char} {gap : List Char} (isBlank : c = ' ' ∨ c = '\t' ∨ c = '\x0c' ∨ c = '\n')
      (rest : IsGap gap) : IsGap (c :: gap)
  | comment {text gap : List Char} (flat : '\n' ∉ text) (rest : IsGap gap) :
      IsGap ('#' :: (text ++ '\n' :: gap))

/-- A comment ends with its line. -/
theorem lexeme?_comment {text rest : List Char} (flat : '\n' ∉ text) (ends : LineEnd rest) :
    Terminal.comment.lexeme? ('#' :: (text ++ rest)) = some ('#' :: text, rest) := by
  have onLine : ∀ c ∈ text, (c != '\n') = true := by
    intro c member
    rw [bne_iff_ne]
    exact fun newline => flat (newline ▸ member)
  rw [Terminal.lexeme?, takeWhile_append_stops onLine ends, dropWhile_append_stops onLine ends]

/-- **Layout and comments before a word count for nothing.** -/
theorem nextToken_isGap (allowed : List Terminal) {gap : List Char} (isGap : IsGap gap) (text : List Char)
    (first second : Place) :
    (nextToken allowed ⟨gap ++ text, first⟩).bare = (nextToken allowed ⟨text, second⟩).bare := by
  have newline : ∀ c ∈ ['\n'], isLayout c = true := List.forall_mem_singleton.mpr rfl
  induction isGap generalizing first with
  | nil => exact nextToken_bare _ _ _ rfl
  | @blank c gap isBlank rest ih =>
    have layout : ∀ d ∈ [c], isLayout d = true := by
      rw [List.forall_mem_singleton]
      rcases isBlank with rfl | rfl | rfl | rfl
      · rfl
      · rfl
      · rfl
      · rfl
    exact (nextToken_layout allowed layout (gap ++ text) first second).trans (ih second)
  | @comment text' gap flat rest ih =>
    have alone : (triedKinds allowed).filter (·.mayStart '#') = [.comment] := by
      rw [triedKinds, List.filter_comm, show Terminal.order.filter (·.mayStart '#') = [.comment] by decide]
      rfl
    have cut := lexeme?_comment flat (LineEnd.cons (gap ++ text))
    have shape : '#' :: (text' ++ '\n' :: gap) ++ text = '#' :: (text' ++ '\n' :: (gap ++ text)) := by simp
    rw [shape, nextToken_eq, firstWord?_alone alone cut]
    exact (nextToken_layout allowed newline (gap ++ text) _ second).trans (ih second)

theorem flat_normalizeNewlines {text : List Char} (flat : '\n' ∉ text) (rest : List Char) :
    ∃ kept, '\n' ∉ kept ∧
      normalizeNewlines (text ++ '\n' :: rest) = kept ++ '\n' :: normalizeNewlines rest := by
  induction text with
  | nil => exact ⟨[], by simp, by cases rest <;> simp [normalizeNewlines, replacePair]⟩
  | cons c text ih =>
    have notNewline : c ≠ '\n' := fun same => flat (same ▸ List.mem_cons_self)
    have flatToo : '\n' ∉ text := fun member => flat (List.mem_cons_of_mem _ member)
    cases text with
    | nil =>
      by_cases carriage : c = '\r'
      · exact ⟨[], by simp, by simp [normalizeNewlines, replacePair, carriage]⟩
      · refine ⟨[c], by simpa using Ne.symm notNewline, ?_⟩
        cases rest <;> simp [normalizeNewlines, replacePair, carriage]
    | cons d text =>
      have other : d ≠ '\n' := fun same => flatToo (same ▸ List.mem_cons_self)
      obtain ⟨kept, flatKept, same⟩ := ih flatToo
      refine ⟨c :: kept, by simp [flatKept, Ne.symm notNewline], ?_⟩
      simp only [normalizeNewlines, List.cons_append] at same ⊢
      rw [replacePair, if_neg fun pair => other pair.2, same]

/-- Line ends of two characters in a gap leave it a gap. -/
theorem IsGap.normalizeNewlines {gap : List Char} (isGap : IsGap gap) (rest : List Char) :
    ∃ kept, IsGap kept ∧ normalizeNewlines (gap ++ rest) = kept ++ normalizeNewlines rest := by
  induction isGap with
  | nil => exact ⟨[], .nil, rfl⟩
  | @blank c gap isBlank _ ih =>
    obtain ⟨kept, isGap, same⟩ := ih
    refine ⟨c :: kept, .blank isBlank isGap, ?_⟩
    have notReturn : '\r' ∉ [c] := by
      rcases isBlank with rfl | rfl | rfl | rfl <;> decide
    rw [List.cons_append, List.cons_append, ← same]
    exact unpaired_of_notMem notReturn (gap ++ rest)
  | @comment text gap flat _ ih =>
    obtain ⟨kept, isGap, same⟩ := ih
    obtain ⟨line, flatLine, sameLine⟩ := flat_normalizeNewlines flat (gap ++ rest)
    refine ⟨'#' :: (line ++ '\n' :: kept), .comment flatLine isGap, ?_⟩
    have shape : '#' :: (text ++ '\n' :: gap) ++ rest = ['#'] ++ (text ++ '\n' :: (gap ++ rest)) := by simp
    rw [shape, show Source.normalizeNewlines _ = _ from unpaired_of_notMem (by decide) _, sameLine, same]
    simp

/-- A gap yields to nothing but what a run stops at. -/
theorem yields_gap {gap : List Char} (isGap : IsGap gap) (rest : List Char) : Yields rest (gap ++ rest) := by
  cases isGap with
  | nil => exact fun _ _ stops => stops
  | @blank c gap isBlank _ =>
    refine yields_layout (.inl ?_) _ _
    rcases isBlank with rfl | rfl | rfl | rfl <;> rfl
  | comment => exact yields_layout (.inr rfl) _ _

/-! ### Words before the boundary -/

/-- An arrow that follows is the next word. -/
theorem rest_of_arrow {unit : RawUnit} {pattern : Token} {blanks rest : List Char}
    (areBlank : ∀ c ∈ blanks, isTabOrSpace c = true) (split : cursor.rest = blanks ++ '=' :: '>' :: rest)
    (found : nextToken (State.patterned unit pattern).expected cursor = .token token next) :
    next.rest = rest := by
  have layout : ∀ c ∈ blanks, isLayout c = true := by
    intro c member
    have blank := areBlank c member
    simp only [isTabOrSpace, Bool.or_eq_true, beq_iff_eq] at blank
    rcases blank with rfl | rfl
    · rfl
    · rfl
  have skip := nextToken_layout (State.patterned unit pattern).expected layout ('=' :: '>' :: rest)
    cursor.place Place.first
  rw [← split, found, nextToken_eq, firstWord?_of_cut (List.mem_filter.mpr ⟨by decide, rfl⟩)
    (lexeme?_arrow rest)] at skip
  exact congrArg Cursor.rest (Scan.token.inj skip).2

/-- **A word before the boundary is cut off as before** when the text behind the boundary changes. -/
theorem Leads.lexeme?_again {reached final : State} {last : Cursor}
    (found : nextToken state.expected cursor = .token token next)
    (accepted : state.accept token = .go reached) (leads : Leads reached next final last)
    (inBlock : final.InBlock) (proceeds : Proceeds final last) {other : List Char}
    (yields : Yields last.rest other) (split : next.rest = front ++ last.rest) :
    token.kind.lexeme? (token.text ++ (front ++ other)) = some (token.text, front ++ other) := by
  obtain ⟨expected, text, _, cut⟩ := nextToken_eq_token found
  refine Terminal.lexeme?_exchange (State.isIgnored_of_expected expected) cut (split ▸ yields.append front) ?_ ?_
  · intro isParen
    obtain ⟨unit, isPatterned⟩ := State.accept_paren expected isParen
    rw [accepted] at isPatterned
    cases isPatterned
    rw [isParen] at cut
    obtain ⟨blanks, rest, areBlank, isRest⟩ := (arrowFollows_iff _).mp (arrowFollows_of_lexeme? cut)
    cases leads with
    | here => exact absurd isParen inBlock
    | complete _ accepted _ => cases accepted
    | go found _ leads =>
      obtain ⟨between, same⟩ := leads.suffix
      rw [rest_of_arrow areBlank isRest found] at same
      have isFront : front = blanks ++ '=' :: '>' :: between := by
        refine (List.append_left_inj last.rest).mp ?_
        rw [← split, isRest, ← same]
        simp
      exact (arrowFollows_iff _).mpr ⟨blanks, between ++ other, areBlank, by rw [isFront]; simp⟩
  · intro isEntry
    obtain ⟨header, isDescribed⟩ := State.accept_entry expected isEntry
    rw [accepted] at isDescribed
    cases isDescribed
    obtain ⟨opening, tail, isRest, solid, ⟨between, rfl⟩, apart⟩ :=
      leads.keyword_of_described inBlock proceeds rfl
    have isFront : front = opening ++ keywordThen between := by
      refine (List.append_left_inj last.rest).mp ?_
      rw [← split, isRest, List.append_assoc]
      rfl
    refine ⟨opening, between ++ last.rest, between ++ other, isRest, ?_, solid, apart, ?_⟩
    · rw [isFront, List.append_assoc]
      rfl
    · exact yields.append between _ isWordCode_of_layout apart

/-- The units that are read behind a step of the grammar, without places. -/
def unitsAfter (units : List RawUnit) (text : List Char) : Step → Option (List RawUnit)
  | .go reached => unitsRead reached units text
  | .complete unit => unitsRead .start (units ++ [unit]) text

/-- Reading goes on behind the next word, wherever the text stands. -/
theorem unitsRead_of_token (found : nextToken state.expected cursor = .token token next)
    (units : List RawUnit) :
    unitsRead state units cursor.rest = unitsAfter units next.rest (state.accept token) := by
  have here : unitsRead state units cursor.rest = bareUnits (runGrammar state Place.first units cursor) := by
    refine bareUnits_runGrammar rfl rfl ?_ _ _
    rfl
  rw [here, runGrammar_eq, found, afterScan]
  cases state.accept token with
  | go reached =>
    refine bareUnits_runGrammar rfl rfl ?_ _ _
    rfl
  | complete unit =>
    refine bareUnits_runGrammar rfl rfl ?_ _ _
    rfl

/-- A word that is cut off as before leads on to what is read behind it. -/
theorem unitsRead_exchange (found : nextToken state.expected cursor = .token token next)
    {between old other : List Char} (isNext : next.rest = between ++ old)
    (again : token.kind.lexeme? (token.text ++ (between ++ other)) = some (token.text, between ++ other))
    {units : List RawUnit} (later : unitsAfter units (between ++ other) (state.accept token)
      = unitsAfter units next.rest (state.accept token)) (split : cursor.rest = front ++ old) :
    unitsRead state units (front ++ other) = unitsRead state units cursor.rest := by
  obtain ⟨skipped, isRest, foundToo⟩ := nextToken_exchange found again
  have isFront : front = skipped ++ (token.text ++ between) := by
    refine (List.append_left_inj old).mp ?_
    rw [← split, isRest, isNext]
    simp
  have read := unitsRead_of_token foundToo units
  rw [unitsRead_of_token found, ← later, ← read, isFront]
  simp

/-- **The text behind a boundary can be exchanged** for one from which the same units are read. -/
theorem Leads.exchange {final : State} {last : Cursor} (leads : Leads state cursor final last)
    (inBlock : final.InBlock) (proceeds : Proceeds final last) {other : List Char}
    (yields : Yields last.rest other)
    (same : ∀ units, unitsRead final units other = unitsRead final units last.rest) (units : List RawUnit)
    (split : cursor.rest = front ++ last.rest) :
    unitsRead state units (front ++ other) = unitsRead state units cursor.rest := by
  induction leads generalizing units front with
  | here =>
    rw [List.append_left_eq_self.mp split.symm]
    exact same units
  | go found accepted leads ih =>
    obtain ⟨between, isNext⟩ := leads.suffix
    have again := leads.lexeme?_again found accepted inBlock proceeds yields isNext.symm
    refine unitsRead_exchange found isNext.symm again ?_ split
    rw [accepted]
    exact ih inBlock proceeds yields same units isNext.symm
  | complete found accepted leads ih =>
    obtain ⟨between, isNext⟩ := leads.suffix
    have isBrace := State.kind_of_complete (nextToken_eq_token found).1 accepted
    obtain ⟨_, text, _, cut⟩ := nextToken_eq_token found
    have again := Terminal.lexeme?_exchange (by rw [isBrace]; rfl) cut
      (isNext ▸ yields.append between) (by rw [isBrace]; rintro ⟨⟩) (by rw [isBrace]; rintro ⟨⟩)
    refine unitsRead_exchange found isNext.symm again ?_ split
    rw [accepted]
    exact ih inBlock proceeds yields same _ isNext.symm

/-! ### Units from the same words -/

theorem Token.eq_of_bare {other : Token} (same : other.bare = token.bare) :
    other.kind = token.kind ∧ other.text = token.text := kind_text_of_bare same

/-- A pattern does not depend on the place of its word. -/
theorem buildPattern_bare {other : Token} (same : other.bare = token.bare) {pattern : Pattern}
    (built : buildPattern origin token = .ok pattern) :
    buildPattern origin other = .ok pattern := by
  obtain ⟨sameKind, sameText⟩ := Token.eq_of_bare same
  have regex : ∀ source flags delimiter, buildRegex origin token.place source flags delimiter = .ok pattern →
      buildRegex origin other.place source flags delimiter = .ok pattern := by
    intro source flags delimiter isRegex
    unfold buildRegex at isRegex ⊢
    split at isRegex
    · exact isRegex
    · exact isRegex
    · cases isRegex
    · cases isRegex
  unfold buildPattern at built ⊢
  rw [sameKind, sameText]
  split at built
  · exact regex _ _ _ built
  · exact regex _ _ _ built
  · exact built

theorem buildArms_bare {words others : List RawArm} (same : others.map RawArm.bare = words.map RawArm.bare)
    {arms : List Arm} (built : buildArms origin words = .ok arms) :
    ∃ again, buildArms origin others = .ok again ∧ again.map Arm.bare = arms.map Arm.bare := by
  induction words generalizing others arms with
  | nil =>
    cases built
    rw [List.map_nil, List.map_eq_nil_iff] at same
    exact ⟨[], by rw [same]; rfl, rfl⟩
  | cons word words ih =>
    obtain ⟨other, later, rfl, first, rest⟩ := List.map_eq_cons_iff.mp same
    rw [buildArms] at built
    split at built
    · cases built
    · rename_i pattern isPattern
      split at built
      · cases built
      · rename_i arms isArms
        cases built
        obtain ⟨again, builtToo, content⟩ := ih rest isArms
        have action : buildAction other.action = buildAction word.action := by
          have bare : other.action.bare = word.action.bare := congrArg RawArm.action first
          rw [← buildAction_moved _ other.action, ← buildAction_moved _ word.action]
          exact congrArg buildAction bare
        rw [buildArms, buildPattern_bare (congrArg RawArm.pattern first) isPattern, builtToo]
        exact ⟨_, rfl, by simp [content, action, Arm.bare]⟩

theorem buildEntries_bare {unit : String} {before beforeToo : List MetaEntry}
    (sameBefore : beforeToo.map MetaEntry.bare = before.map MetaEntry.bare) {words others : List Token}
    (same : others.map Token.bare = words.map Token.bare) {entries : List MetaEntry}
    (built : buildEntries origin unit before words = .ok entries) :
    ∃ again, buildEntries origin unit beforeToo others = .ok again ∧
      again.map MetaEntry.bare = entries.map MetaEntry.bare := by
  induction words generalizing others before beforeToo with
  | nil =>
    cases built
    rw [List.map_nil, List.map_eq_nil_iff] at same
    exact ⟨beforeToo, by rw [same]; rfl, sameBefore⟩
  | cons word words ih =>
    obtain ⟨other, later, rfl, first, rest⟩ := List.map_eq_cons_iff.mp same
    obtain ⟨_, sameText⟩ := Token.eq_of_bare first
    have sameKey : (entryOf other).key = (entryOf word).key := by simp only [entryOf, sameText]
    have sameValue : (entryOf other).text = (entryOf word).text := by simp only [entryOf, sameText]
    have sameEntry : (entryOf other).bare = (entryOf word).bare := by
      simp only [MetaEntry.bare, sameKey, sameValue]
    have sameAny : (beforeToo.any fun entry => entry.key == (entryOf word).key)
        = before.any fun entry => entry.key == (entryOf word).key := by
      have both := congrArg (List.any · fun entry => entry.key == (entryOf word).key) sameBefore
      rw [List.any_map, List.any_map] at both
      exact both
    rw [buildEntries] at built ⊢
    simp only [sameKey, sameValue, sameAny] at built ⊢
    split at built
    · cases built
    · rename_i isKnown
      split at built
      · cases built
      · rename_i isNew
        split at built
        · cases built
        · rename_i isClosed
          rw [if_neg isKnown, if_neg isNew, if_neg isClosed]
          refine ih ?_ rest built
          rw [List.map_append, List.map_append, sameBefore, List.map_singleton, List.map_singleton, sameEntry]

theorem buildUnit_bare {words others : RawUnit} (same : others.bare = words.bare) {unit : PromptUnit}
    (built : buildUnit origin words = .ok unit) :
    ∃ again, buildUnit origin others = .ok again ∧ again.bare = unit.bare := by
  have header : others.header.bare = words.header.bare := congrArg RawUnit.header same
  obtain ⟨_, sameName⟩ := Token.eq_of_bare (congrArg Header.name header)
  obtain ⟨_, sameSubject⟩ := Token.eq_of_bare (congrArg RawUnit.subject same)
  have name : others.header.name.string = words.header.name.string := congrArg String.ofList sameName
  unfold buildUnit at built
  split at built
  · cases built
  · rename_i arms isArms
    simp only at built
    split at built
    · cases built
    · rename_i entries isEntries
      cases built
      obtain ⟨armsToo, builtArms, sameArms⟩ := buildArms_bare (congrArg RawUnit.arms same) isArms
      obtain ⟨entriesToo, builtEntries, sameEntries⟩ :=
        buildEntries_bare rfl (congrArg Header.entries header) isEntries
      unfold buildUnit
      simp only [builtArms, name, builtEntries]
      exact ⟨_, rfl, by simp [PromptUnit.bare, sameArms, sameEntries, sameSubject]⟩

/-- **Units do not depend on the places of their words.** -/
theorem buildUnits_bare {words others : List RawUnit}
    (same : others.map RawUnit.bare = words.map RawUnit.bare) {units : List PromptUnit}
    (built : buildUnits origin words = .ok units) :
    ∃ again, buildUnits origin others = .ok again ∧ again.map PromptUnit.bare = units.map PromptUnit.bare := by
  induction words generalizing others units with
  | nil =>
    cases built
    rw [List.map_nil, List.map_eq_nil_iff] at same
    exact ⟨[], by rw [same]; rfl, rfl⟩
  | cons word words ih =>
    obtain ⟨other, later, rfl, first, rest⟩ := List.map_eq_cons_iff.mp same
    rw [buildUnits] at built
    split at built
    · cases built
    · rename_i unit isUnit
      split at built
      · cases built
      · rename_i units isUnits
        cases built
        obtain ⟨again, builtToo, content⟩ := buildUnit_bare first isUnit
        obtain ⟨others, builtOthers, contents⟩ := ih rest isUnits
        rw [buildUnits, builtToo]
        simp only [builtOthers]
        exact ⟨_, rfl, by rw [List.map_cons, List.map_cons, content, contents]⟩

/-! ### Insertions -/

/-- **A boundary between two words of a match block**, as a way to cut a text in two: the grammar has read
a word, is inside the block, and goes on with another one behind layout and comments, part of which may
stand before the cut. -/
def IsBoundary (before after : List Char) : Prop :=
  ∃ state cursor gap, Leads .start ⟨before ++ after, Place.first⟩ state cursor ∧ state.InBlock ∧
    Proceeds state cursor ∧ cursor.rest = gap ++ after ∧ IsGap gap

theorem unitsRead_insert {before after gap : List Char} (boundary : IsBoundary before after)
    (isGap : IsGap gap) :
    unitsRead .start [] (before ++ (gap ++ after)) = unitsRead .start [] (before ++ after) := by
  obtain ⟨state, cursor, skipped, leads, inBlock, proceeds, isRest, isSkipped⟩ := boundary
  obtain ⟨front, split⟩ := leads.suffix
  change front ++ cursor.rest = before ++ after at split
  have isBefore : before = front ++ skipped := by
    refine (List.append_left_inj after).mp ?_
    rw [← split, isRest, List.append_assoc]
  have gapInside : Yields cursor.rest (skipped ++ (gap ++ after)) := by
    rw [isRest]
    exact (yields_gap isGap after).append skipped
  have same : ∀ units,
      unitsRead state units (skipped ++ (gap ++ after)) = unitsRead state units cursor.rest := by
    intro units
    rw [isRest]
    refine bareUnits_of_sameScan rfl rfl ?_ _ _
    rw [nextToken_isGap _ isSkipped _ _ Place.first, nextToken_isGap _ isGap _ _ Place.first,
      nextToken_isGap _ isSkipped _ _ Place.first]
  have exchanged := leads.exchange inBlock proceeds gapInside same [] split.symm
  rw [isBefore, List.append_assoc]
  rw [isBefore] at exchanged
  exact exchanged

/-- **Layout and comments inside a match block carry no meaning**: put at a boundary between two of its
words, they leave a source with the same units, up to lines and columns. -/
theorem parseUnits_insert (origin : Option String) (before gap after : String) (units : List PromptUnit)
    (noReturn : '\r' ∉ (before ++ after).toList) (parsed : parseUnits origin (before ++ after) = .ok units)
    (boundary : IsBoundary before.toList after.toList) (isGap : IsGap gap.toList) :
    ∃ others, parseUnits origin (before ++ gap ++ after) = .ok others ∧
      others.map PromptUnit.bare = units.map PromptUnit.bare := by
  rw [String.toList_append] at noReturn
  have noReturnBefore : '\r' ∉ before.toList := fun member => noReturn (List.mem_append_left _ member)
  have noReturnAfter : '\r' ∉ after.toList := fun member => noReturn (List.mem_append_right _ member)
  obtain ⟨kept, isKept, sameGap⟩ := isGap.normalizeNewlines after.toList
  have normal : normalizeNewlines (before ++ gap ++ after).toList
      = before.toList ++ (kept ++ after.toList) := by
    rw [String.toList_append, String.toList_append, List.append_assoc, unpaired_of_notMem noReturnBefore,
      sameGap, normalizeNewlines_of_notMem noReturnAfter]
  have read := unitsRead_insert boundary isKept
  rw [← bareUnits_readUnits, ← bareUnits_readUnits] at read
  unfold parseUnits at parsed ⊢
  simp only at parsed ⊢
  rw [String.toList_append, normalizeNewlines_of_notMem noReturn] at parsed
  rw [normal]
  cases first : readUnits (before.toList ++ after.toList) with
  | error malformed => rw [first] at parsed; cases parsed
  | ok words =>
    rw [first] at parsed read
    cases second : readUnits (before.toList ++ (kept ++ after.toList)) with
    | error malformed => rw [second] at read; cases read
    | ok others =>
      rw [second] at read
      exact buildUnits_bare (Option.some.inj read) parsed

/-- A source up to the keyword of its match block. -/
def blockStart : String := "a\ndirection: i\n\x7bmatch"

/-- What follows the keyword. -/
def blockEnd : String := " $AI\x7b\"\"=>\x60l\x60\x7d\x7d"

theorem isBoundary_blockStart : IsBoundary blockStart.toList blockEnd.toList := by
  have name : nextToken [.name] ⟨blockStart.toList ++ blockEnd.toList, Place.first⟩ =
      .token ⟨.name, ['a'], ⟨1, 1⟩⟩ ⟨blockStart.toList.drop 1 ++ blockEnd.toList, ⟨1, 2⟩⟩ := by
    with_unfolding_all rfl
  have entry : nextToken [.entry] ⟨blockStart.toList.drop 1 ++ blockEnd.toList, ⟨1, 2⟩⟩ =
      .token ⟨.entry, "direction: i".toList, ⟨2, 1⟩⟩
        ⟨blockStart.toList.drop 14 ++ blockEnd.toList, ⟨2, 13⟩⟩ := by
    with_unfolding_all rfl
  have brace : nextToken [.entry, .openBrace] ⟨blockStart.toList.drop 14 ++ blockEnd.toList, ⟨2, 13⟩⟩ =
      .token ⟨.openBrace, ['{'], ⟨3, 1⟩⟩ ⟨blockStart.toList.drop 16 ++ blockEnd.toList, ⟨3, 2⟩⟩ := by
    with_unfolding_all rfl
  have keyword : nextToken [.matchWord] ⟨blockStart.toList.drop 16 ++ blockEnd.toList, ⟨3, 2⟩⟩ =
      .token ⟨.matchWord, "match".toList, ⟨3, 2⟩⟩ ⟨blockEnd.toList, ⟨3, 7⟩⟩ := by
    with_unfolding_all rfl
  have subject : nextToken [.subject] ⟨blockEnd.toList, ⟨3, 7⟩⟩ =
      .token ⟨.subject, "$AI".toList, ⟨3, 8⟩⟩ ⟨blockEnd.toList.drop 4, ⟨3, 11⟩⟩ := by
    with_unfolding_all rfl
  exact ⟨_, _, [], .go name rfl (.go entry rfl (.go brace rfl (.go keyword rfl (.here _ _)))), trivial,
    ⟨_, _, subject⟩, rfl, .nil⟩

/-- A comment full of signs, with a line end of two characters, and a tab. -/
def remark : String := "#\x60\x7d\"=>(\r\n\t"

theorem isGap_remark : IsGap remark.toList := by
  have flat : '\n' ∉ "\x60\x7d\"=>(\r".toList := by decide
  exact .comment flat (.blank (.inr (.inl rfl)) .nil)

theorem remark_insert : ∃ units others, parseUnits none (blockStart ++ blockEnd) = .ok units ∧
    units.map PromptUnit.name = ["a"] ∧ parseUnits none (blockStart ++ remark ++ blockEnd) = .ok others ∧
    others.map PromptUnit.bare = units.map PromptUnit.bare := by
  have evaluated :
      (parseUnits none (blockStart ++ blockEnd)).toOption.map (List.map PromptUnit.name) = some ["a"] := by
    decide +kernel
  cases read : parseUnits none (blockStart ++ blockEnd) with
  | error problem => rw [read] at evaluated; cases evaluated
  | ok units =>
    rw [read] at evaluated
    obtain ⟨others, parsed, same⟩ := parseUnits_insert none blockStart remark blockEnd units (by decide) read
      isBoundary_blockStart isGap_remark
    exact ⟨units, others, rfl, Option.some.inj evaluated, parsed, same⟩

end Source

end PromptChain
