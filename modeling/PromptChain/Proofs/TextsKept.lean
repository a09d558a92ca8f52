/-
**When a rewritten source keeps its metadata.**

A metadata text that needs a block is kept exactly when it is read back from its block. One that is not
kept is lost in one of two ways. Its block stays open, but its text reads differently; or a line of it
closes the block, and what was read before that line is too short (`entryText_cut_ne`). In both cases the
entry that has been read stays in its unit, whatever follows (`exists_unit_of_header`).

Main statement: `formatUnits_keeps_texts_iff`, for the units of any source without carriage returns.
-/

import PromptChain.Proofs.Parsed

namespace PromptChain.Source

open Text

/-! ### Texts that are cut -/

/-- Reading a block only shortens. -/
theorem length_readBlock_le (parts : List (List Char)) :
    (readBlock parts).length ≤ (unlines parts).length := by
  have joined : (unlines (parts.map (cutLine (sharedIndent parts)))).length
      ≤ (unlines parts).length := by
    rw [length_unlines, length_unlines, List.length_map]
    exact Nat.add_le_add_right (sum_length_map_le fun line _ => length_cutLine_le _ line) _
  exact (length_unquote_le _).trans ((length_stripNewlines_le _).trans joined)

variable {taken left : List (List Char)} {header : Header} {before units : List RawUnit}

/-- Lines that are left out make a text shorter. -/
theorem length_unlines_lt (some_left : left ≠ []) (some_taken : taken ≠ []) :
    (unlines taken).length < (unlines (taken ++ left)).length := by
  have leftCount := List.length_pos_iff.mpr some_left
  have takenCount := List.length_pos_iff.mpr some_taken
  rw [length_unlines, length_unlines, List.map_append, List.sum_append, List.length_append]
  omega

/-- **A text that is not kept is read differently**, whether its block is cut or not. -/
theorem entryText_cut_ne {text : List Char} (needs : needsBlock text = true)
    (notKept : ¬ KeptByLayout text) (split : lines text = taken ++ left)
    (uncut : left = [] ↔ StaysOpen (lines text)) :
    entryText (' ' :: '|' :: blockText taken) ≠ text := by
  have nonempty : text ≠ [] := by
    rintro rfl
    rw [needsBlock_nil] at needs
    cases needs
  have flat : ∀ line ∈ taken, '\n' ∉ line := fun line member =>
    newline_notMem_of_mem_lines (split ▸ List.mem_append_left left member)
  by_cases none_taken : taken = []
  · subst none_taken
    exact fun empty => nonempty empty.symm
  rw [entryText_block flat]
  intro same
  by_cases none_left : left = []
  · rw [none_left, List.append_nil] at split
    rw [← split] at same
    obtain ⟨ends, first, last, flush, plain⟩ := (readBlock_eq_iff nonempty).mp same
    exact notKept (Or.inr ⟨ends, first, last, flush, plain, uncut.mp none_left⟩)
  · have shorter := length_unlines_lt none_left none_taken
    rw [← split, unlines_lines] at shorter
    have short := length_readBlock_le taken
    rw [same] at short
    omega

/-! ### Entries that have been read stay -/

/-- The header of the unit that is being read. -/
def State.header? : State → Option Header
  | .start | .named _ => none
  | .described header | .opened header | .matching header | .subject header _ => some header
  | .block unit | .patterned unit _ | .arrowed unit _ | .commanded unit _ _ | .calling unit _ _ _
  | .called unit _ _ _ | .closing unit => some unit.header

theorem header?_afterArm (unit : RawUnit) (pattern : Token) (action : RawAction) (token : Token) :
    (afterArm (unit.addArm pattern action) token).header? = some unit.header := by
  unfold afterArm
  split <;> rfl

/-- **A step of the grammar takes no entry away.** -/
theorem header?_go {state reached : State} {token : Token} (goes : state.accept token = .go reached)
    (now : state.header? = some header) :
    ∃ later, reached.header? = some later ∧ header.entries <+: later.entries := by
  cases state with
  | start | named _ => cases now
  | described described =>
    cases now
    rw [State.accept] at goes
    split at goes
    · cases goes
      exact ⟨header, rfl, List.prefix_rfl⟩
    · cases goes
      exact ⟨_, rfl, List.prefix_append _ _⟩
  | opened _ | matching _ | subject _ _ | block _ | patterned _ _ | calling _ _ _ _ =>
    cases now
    cases goes
    exact ⟨_, rfl, List.prefix_rfl⟩
  | arrowed unit pattern =>
    cases now
    rw [State.accept] at goes
    split at goes
    · cases goes
      exact ⟨_, rfl, List.prefix_rfl⟩
    · cases goes
      exact ⟨_, rfl, List.prefix_rfl⟩
  | commanded unit pattern command =>
    cases now
    rw [State.accept] at goes
    split at goes
    · cases goes
      exact ⟨_, rfl, List.prefix_rfl⟩
    · cases goes
      exact ⟨_, header?_afterArm _ _ _ _, List.prefix_rfl⟩
  | called unit pattern command targets =>
    cases now
    rw [State.accept] at goes
    split at goes
    · cases goes
      exact ⟨_, rfl, List.prefix_rfl⟩
    · cases goes
      exact ⟨_, header?_afterArm _ _ _ _, List.prefix_rfl⟩
  | closing unit => cases goes

/-- A unit is complete only at its last brace. -/
theorem header?_complete {state : State} {token : Token} {unit : RawUnit}
    (completes : state.accept token = .complete unit) : state.header? = some unit.header := by
  cases state with
  | closing unit =>
    cases completes
    rfl
  | start | named _ | opened _ | matching _ | subject _ _ | block _ | patterned _ _ | calling _ _ _ _ =>
    cases completes
  | described _ | arrowed _ _ | commanded _ _ _ | called _ _ _ _ =>
    rw [State.accept] at completes
    split at completes
    · cases completes
    · cases completes

/-- **Entries that have been read are entries of the next unit**, whatever follows. -/
theorem exists_unit_of_header {state : State} {last : Place} {cursor : Cursor}
    (now : state.header? = some header) (read : runGrammar state last before cursor = .ok units) :
    ∃ unit more, units = before ++ unit :: more ∧ header.entries <+: unit.header.entries := by
  have start : (∃ unit more, before = before ++ unit :: more ∧ header.entries <+: unit.header.entries) ∨
      before = before ∧ ∃ later, state.header? = some later ∧ header.entries <+: later.entries :=
    Or.inr ⟨rfl, header, now, List.prefix_rfl⟩
  obtain ⟨_, done⟩ := runGrammar_invariant
    (fun state units _ =>
      (∃ unit more, units = before ++ unit :: more ∧ header.entries <+: unit.header.entries) ∨
        units = before ∧ ∃ later, state.header? = some later ∧ header.entries <+: later.entries)
    (fun holds _ _ goes => by
      rcases holds with done | ⟨same, later, isHeader, kept⟩
      · exact Or.inl done
      · obtain ⟨next, isNext, more⟩ := header?_go goes isHeader
        exact Or.inr ⟨same, next, isNext, kept.trans more⟩)
    (fun holds _ _ completes => by
      left
      rcases holds with ⟨unit, more, rfl, kept⟩ | ⟨rfl, later, isHeader, kept⟩
      · exact ⟨unit, more ++ [_], by rw [List.append_assoc, List.cons_append], kept⟩
      · rw [header?_complete completes] at isHeader
        cases isHeader
        exact ⟨_, [], rfl, kept⟩)
    start read
  rcases done with done | ⟨_, _, wrong, _⟩
  · exact done
  · cases wrong

/-! ### The first text that is lost -/

/-- The first member of a list that fails a test. -/
theorem exists_first_not {α : Type} {test : α → Prop} {members : List α}
    (fails : ¬ ∀ member ∈ members, test member) :
    ∃ before first after, members = before ++ first :: after ∧ (∀ member ∈ before, test member) ∧
      ¬ test first := by
  induction members with
  | nil => exact absurd (by simp) fails
  | cons member members ih =>
    by_cases passes : test member
    · have later : ¬ ∀ member ∈ members, test member := fun all =>
        fails (List.forall_mem_cons.mpr ⟨passes, all⟩)
      obtain ⟨before, first, after, rfl, earlier, here⟩ := ih later
      exact ⟨member :: before, first, after, rfl, List.forall_mem_cons.mpr ⟨passes, earlier⟩, here⟩
    · exact ⟨[], member, members, rfl, by simp, passes⟩

/-- **A text that is lost leaves a word of its key with another value**, and reading goes on behind it. -/
theorem exists_lost_word {unit : PromptUnit} (wellFormed : unit.WellFormed)
    (lost : ¬ ∀ entry ∈ unit.entries, KeptByLayout entry.text.toList) (before : List RawUnit)
    (rest : List Char) :
    ∃ pair ∈ unit.keyTexts, ∃ header word left,
      unitsRead .start before ((formatUnit unit).toList ++ rest)
        = unitsRead (.described header) before left ∧
      word ∈ header.entries ∧ (entryOf word).key = pair.1 ∧ (entryOf word).text ≠ pair.2 := by
  have texts := orderedTexts_perm wellFormed
  have known : ∀ pair ∈ orderedTexts unit, pair.1 ∈ metadataKeys :=
    forall_orderedTexts wellFormed wellFormed.known
  have lostPair : ¬ ∀ pair ∈ orderedTexts unit, KeptByLayout pair.2.toList := by
    intro all
    refine lost fun entry isEntry => all (entry.key, entry.text) (texts.mem_iff.mpr ?_)
    exact List.mem_map_of_mem isEntry
  obtain ⟨earlier, ⟨key, text⟩, later, split, kept, notKept⟩ := exists_first_not lostPair
  have needs : needsBlock text.toList = true := by
    by_contra onLine
    exact notKept (Or.inl (by simpa using onLine))
  rw [split, List.forall_mem_append, List.forall_mem_cons] at known
  obtain ⟨knownEarlier, isKnown, knownLater⟩ := known
  obtain ⟨next, opening, follows⟩ := exists_entryLines knownLater (opening_matchBlock unit rest)
  obtain ⟨taken, left, cutLines, uncut, _, cut⟩ := lexeme?_entry_block isKnown needs opening
  have isKey := isSubject_of_known isKnown
  refine ⟨(key, text), texts.mem_iff.mp (split ▸ List.mem_append_right _ List.mem_cons_self),
    ⟨nameWord unit.name, earlier.map entryWordOf
      ++ [bareWord .entry (key.toList ++ ':' :: ' ' :: '|' :: blockText taken)]⟩, _,
    blockText left ++ '\n' :: next, ?_, List.mem_append_right _ List.mem_cons_self, ?_, ?_⟩
  · have read := unitsRead_entryWord (headerState_expected (nameWord unit.name) _) isKnown cut
      (headerState_accept (nameWord unit.name) (earlier.map entryWordOf) _) before
    have written : below (entryLines (orderedTexts unit)) ++ '\n' :: (matchBlock unit ++ rest)
        = below (entryLines earlier) ++ '\n' :: ((formatEntry key text).toList ++ '\n' :: next) := by
      rw [split, entryLines, List.map_append, below_append, List.append_assoc, ← entryLines, ← entryLines,
        below_entryLines_cons, follows]
    have some_word : earlier.map entryWordOf
        ++ [bareWord .entry (key.toList ++ ':' :: ' ' :: '|' :: blockText taken)] ≠ [] := by simp
    rw [headerState_of_ne_nil _ some_word] at read
    rw [toList_formatUnit, List.append_assoc, List.append_assoc, List.cons_append, written,
      unitsRead_header wellFormed.name knownEarlier kept before (opening_entry isKnown text _), read]
  · simp only [entryOf, bareWord, entryKey_append isKey, String.ofList_toList]
  · simp only [entryOf, bareWord, valueText_append isKey]
    intro same
    refine entryText_cut_ne needs notKept cutLines uncut ?_
    rw [← same, String.toList_ofList]

/-! ### Units whose texts are kept -/

/-- Units before one are read as their words. -/
theorem unitsRead_formatUnits_append {units : List PromptUnit}
    (wellFormed : ∀ unit ∈ units, unit.WellFormed)
    (kept : ∀ unit ∈ units, ∀ entry ∈ unit.entries, KeptByLayout entry.text.toList)
    (unit : PromptUnit) (more : List PromptUnit) :
    unitsRead .start [] (formatUnits (units ++ unit :: more)).toList
      = unitsRead .start (units.map unitWords)
        ((formatUnit unit).toList ++ below (more.map fun unit => (formatUnit unit).toList)) := by
  have newline : ∀ c ∈ ['\n'], isLayout c = true := List.all_eq_true.mp rfl
  rw [unitsRead_formatUnits, List.map_append, List.map_cons, below_append,
    unitsRead_below wellFormed kept, List.nil_append, below_cons]
  exact unitsRead_layout .start _ newline _

theorem exists_unit_of_unitsRead {text : List Char}
    (read : unitsRead (.described header) before text = some units) :
    ∃ unit more, units = before.map RawUnit.bare ++ unit :: more ∧
      header.entries.map Token.bare <+: unit.header.entries := by
  unfold unitsRead at read
  cases found : runGrammar (.described header) Place.first before ⟨text, Place.first⟩ with
  | error malformed => rw [found] at read; cases read
  | ok words =>
    rw [found] at read
    cases read
    obtain ⟨unit, more, rfl, kept⟩ := exists_unit_of_header rfl found
    exact ⟨unit.bare, more.map RawUnit.bare, by rw [List.map_append, List.map_cons],
      kept.map Token.bare⟩

theorem forall₂_getElem? {α β : Type} {related : α → β → Prop} {first : List α} {second : List β}
    (all : List.Forall₂ related first second) {index : Nat} {one : α} (here : first[index]? = some one) :
    ∃ two, second[index]? = some two ∧ related one two := by
  induction all generalizing index with
  | nil => cases here
  | cons head _ ih =>
    cases index with
    | zero =>
      cases here
      exact ⟨_, rfl, head⟩
    | succ index => exact ih here

/-- Two units with the same metadata keys and the same texts. -/
def SameTexts (unit other : PromptUnit) : Prop := other.keyTexts.Perm unit.keyTexts

/-- A word with a lost value stands in no unit that has kept its texts. -/
theorem not_sameTexts_of_lost {unit other : PromptUnit} {pair : String × String}
    (isText : pair ∈ unit.keyTexts) {words : List Token} (built : BuiltEntries words other.entries)
    {word : Token} (isWord : word ∈ words) (key : (entryOf word).key = pair.1)
    (text : (entryOf word).text ≠ pair.2) : ¬ SameTexts unit other := by
  intro same
  obtain ⟨entry, isEntry, rfl⟩ := List.mem_map.mp (same.mem_iff.mpr isText)
  have lostEntry : entryOf word ∈ other.entries := by
    rw [built.values]
    exact List.mem_map_of_mem isWord
  have first := entryText?_of_mem built.distinct isEntry
  have second := entryText?_of_mem built.distinct lostEntry
  rw [key, first] at second
  exact text (Option.some.inj second).symm

/-- **A rewritten source keeps its metadata exactly when every text is kept by its layout.** -/
theorem formatUnits_keeps_texts_iff (origin other : Option String) (source : String)
    (noReturn : '\r' ∉ source.toList) (units : List PromptUnit)
    (parsed : parseUnits origin source = .ok units) :
    (∃ again, parseUnits other (formatUnits units) = .ok again ∧ List.Forall₂ SameTexts units again) ↔
      ∀ unit ∈ units, ∀ entry ∈ unit.entries, KeptByLayout entry.text.toList := by
  have wellFormed := wellFormed_of_parseUnits parsed
  have returnFree := returnFree_of_parseUnits noReturn parsed
  constructor
  · rintro ⟨again, readAgain, same⟩
    by_contra lost
    obtain ⟨good, bad, more, rfl, kept, badLost⟩ := exists_first_not lost
    obtain ⟨words, read, built⟩ := exists_words_of_parseUnits readAgain
    rw [normalizeNewlines_formatUnits wellFormed returnFree] at read
    rw [List.forall_mem_append, List.forall_mem_cons] at wellFormed
    obtain ⟨pair, isText, header, word, left, lostWord, isWord, key, text⟩ :=
      exists_lost_word wellFormed.2.1 badLost (good.map unitWords)
        (below (more.map fun unit => (formatUnit unit).toList))
    have unitsAgain : unitsRead (.described header) (good.map unitWords) left
        = some (words.map RawUnit.bare) := by
      rw [← lostWord, ← unitsRead_formatUnits_append wellFormed.1 kept, ← bareUnits_readUnits, read]
      rfl
    obtain ⟨rawUnit, others, split, entries⟩ := exists_unit_of_unitsRead unitsAgain
    have position : (words.map RawUnit.bare)[good.length]? = some rawUnit := by
      rw [split]
      simp
    rw [List.getElem?_map, Option.map_eq_some_iff] at position
    obtain ⟨rawWord, isRaw, rfl⟩ := position
    obtain ⟨unit, isUnit, isBuilt⟩ := forall₂_getElem? built isRaw
    obtain ⟨unitToo, isUnitToo, sameTexts⟩ := forall₂_getElem? same
      (by simp : (good ++ bad :: more)[good.length]? = some bad)
    obtain rfl : unitToo = unit := Option.some.inj (isUnitToo.symm.trans isUnit)
    obtain ⟨lostToken, isToken, bare⟩ := List.mem_map.mp
      (entries.subset (List.mem_map_of_mem isWord))
    have value : ∀ token : Token, (entryOf token.bare).key = (entryOf token).key ∧
        (entryOf token.bare).text = (entryOf token).text := fun token => ⟨rfl, rfl⟩
    refine not_sameTexts_of_lost isText isBuilt.entries isToken ?_ ?_ sameTexts
    · rw [← (value lostToken).1, bare, (value word).1, key]
    · rw [← (value lostToken).2, bare, (value word).2]
      exact text
  · intro kept
    obtain ⟨again, read, same⟩ := parseUnits_formatUnits other wellFormed returnFree kept
    exact ⟨again, read, same.imp fun _ _ content => content.entries⟩

/-- A source whose description stands between two pairs of quotes. -/
def quotedTwice : String :=
  "a\ndescription: \"\"x\"\"\n\x7b match $AI \x7b \"k\" => \x60l\x60 \x7d \x7d\n"

/-- Such a text loses one pair each time it is read. -/
theorem quotedTwice_loses_its_text :
    ∃ units, '\r' ∉ quotedTwice.toList ∧ parseUnits none quotedTwice = .ok units ∧
      ¬ ∃ again, parseUnits none (formatUnits units) = .ok again ∧
        List.Forall₂ SameTexts units again := by
  have found : (parseUnits none quotedTwice).toOption.map (·.flatMap PromptUnit.keyTexts)
      = some [("description", "\"x\"")] := by
    decide +kernel
  cases read : parseUnits none quotedTwice with
  | error problem => rw [read] at found; cases found
  | ok units =>
    rw [read] at found
    have texts : units.flatMap PromptUnit.keyTexts = [("description", "\"x\"")] :=
      Option.some.inj found
    have noReturn : '\r' ∉ quotedTwice.toList := by decide
    refine ⟨units, noReturn, rfl, ?_⟩
    rw [formatUnits_keeps_texts_iff none none quotedTwice noReturn units read]
    intro kept
    have isText : ("description", "\"x\"") ∈ units.flatMap PromptUnit.keyTexts := by
      rw [texts]
      exact List.mem_cons_self
    obtain ⟨unit, isUnit, inUnit⟩ := List.mem_flatMap.mp isText
    obtain ⟨entry, isEntry, same⟩ := List.mem_map.mp inUnit
    have keptText := kept unit isUnit entry isEntry
    rw [(Prod.mk.inj same).2] at keptText
    rcases keptText with onLine | back
    · exact absurd onLine (by decide)
    · exact absurd back.plain (by decide)

end PromptChain.Source
