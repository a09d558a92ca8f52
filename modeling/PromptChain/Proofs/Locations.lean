/-
**Places point at what they name.**

A place is a line and a column; `textFrom` is the text at it, read off the lines of the source. Along a
run of the grammar all words stand in the source where their places say, one before the other
(`Along`), and words that start a unit, an entry or an arm are kept in their order (`State.words`). What
is built takes its places from these words, and so do the faults of building.

Main statement: `parseUnits_locates`.
-/

import PromptChain.Proofs.Joined

namespace PromptChain

open Source

/-- Where the name of a unit stands. -/
def PromptUnit.place (unit : PromptUnit) : Place := ⟨unit.line, unit.column⟩

/-- Where the key of an entry stands. -/
def MetaEntry.place (entry : MetaEntry) : Place := ⟨entry.line, entry.column⟩

namespace Source

open Text

variable {text rest : List Char} {c : Char} {cursor : Cursor} {origin : Option String} {error : ReadError}
  {word : List Char}

/-! ### Places and lines -/

/-- A place in a text: its line is one of the lines of the text, and its column one of the line. -/
structure Place.Inside (text : List Char) (place : Place) : Prop where
  someLine : 1 ≤ place.line
  lineLeft : place.line ≤ text.count '\n' + 1
  someColumn : 1 ≤ place.column
  columnLeft : ∃ row, (lines text)[place.line - 1]? = some row ∧ place.column ≤ row.length

/-- The text from a place on. -/
def textFrom (text : List Char) (place : Place) : List Char :=
  (unlines ((lines text).drop (place.line - 1))).drop (place.column - 1)

/-- A word stands at a place of a text. -/
structure StartsAt (text : List Char) (place : Place) (word : List Char) : Prop where
  inside : place.Inside text
  starts : word <+: textFrom text place

/-- A place that comes earlier in a text than another. -/
def Place.Before (place other : Place) : Prop :=
  place.line < other.line ∨ place.line = other.line ∧ place.column < other.column

theorem Place.Before.trans {first second third : Place} (one : first.Before second)
    (two : second.Before third) : first.Before third := by
  unfold Place.Before at *
  omega

theorem Place.Before.line_le {place other : Place} (before : place.Before other) :
    place.line ≤ other.line := by
  unfold Place.Before at before
  omega

theorem Place.before_pass (place : Place) (c : Char) : place.Before (place.pass c) := by
  unfold Place.pass
  split
  · exact .inl (Nat.lt_succ_self _)
  · exact .inr ⟨rfl, Nat.lt_succ_self _⟩

/-- A text leads on to a later place. -/
theorem Place.before_after (place : Place) (nonempty : text ≠ []) :
    place.Before (place.after text) := by
  induction text generalizing place with
  | nil => exact absurd rfl nonempty
  | cons c text ih =>
    by_cases last : text = []
    · rw [last]
      exact place.before_pass c
    · exact (place.before_pass c).trans (ih _ last)

theorem lines_cons (c : Char) (text : List Char) :
    lines (c :: text) = if c = '\n' then [] :: lines text else (lines text).modifyHead (c :: ·) := by
  simp only [lines, splitOnChar_eq_splitOn, List.splitOn_cons_eq_if_modifyHead, beq_iff_eq]

/-- **A place counts the lines above it** and the characters before it on its line. -/
theorem exists_rows (before : List Char) : ∃ (above : List (List Char)) (start : List Char),
    Place.first.after before = ⟨above.length + 1, start.length + 1⟩ ∧
      ∀ after, lines (before ++ after) = above ++ (lines after).modifyHead (start ++ ·) := by
  induction before using List.reverseRecOn with
  | nil =>
    refine ⟨[], [], rfl, fun after => ?_⟩
    cases rows : lines after with
    | nil => exact absurd rows (lines_ne_nil after)
    | cons row rows => simp [rows]
  | append_singleton before c ih =>
    obtain ⟨above, start, place, split⟩ := ih
    have passes : Place.first.after (before ++ [c]) = (Place.first.after before).pass c := by
      simp [Place.after]
    rw [passes, place]
    by_cases newline : c = '\n'
    · refine ⟨above ++ [start], [], by simp [Place.pass, newline], fun after => ?_⟩
      rw [List.append_assoc, split, List.singleton_append, lines_cons, if_pos newline]
      cases rows : lines after with
      | nil => exact absurd rows (lines_ne_nil after)
      | cons row rows => simp
    · refine ⟨above, start ++ [c], by simp [Place.pass, newline], fun after => ?_⟩
      rw [List.append_assoc, split, List.singleton_append, lines_cons, if_neg newline]
      cases rows : lines after with
      | nil => exact absurd rows (lines_ne_nil after)
      | cons row rows => simp

/-- **The text at the place behind a text** is what follows it. -/
theorem textFrom_after (before after : List Char) :
    textFrom (before ++ after) (Place.first.after before) = after := by
  obtain ⟨above, start, place, split⟩ := exists_rows before
  rw [textFrom, place, split]
  simp only [Nat.add_sub_cancel, List.drop_left]
  cases rows : lines after with
  | nil => exact absurd rows (lines_ne_nil after)
  | cons row rows =>
    have whole := unlines_lines after
    rw [rows, unlines_cons] at whole
    rw [List.modifyHead_cons, unlines_cons, List.append_assoc, List.drop_left, whole]

/-- The place behind a text is in the whole, unless the line ends there. -/
theorem inside_after (before : List Char) (notNewline : c ≠ '\n') (after : List Char) :
    (Place.first.after before).Inside (before ++ c :: after) := by
  obtain ⟨above, start, place, split⟩ := exists_rows before
  have counted := Place.line_after Place.first before
  refine ⟨by rw [place]; exact Nat.le_add_left _ _, ?_, by rw [place]; exact Nat.le_add_left _ _, ?_⟩
  · rw [counted, List.count_append]
    simp only [Place.first]
    omega
  · rw [place, split, lines_cons, if_neg notNewline]
    cases rows : lines after with
    | nil => exact absurd rows (lines_ne_nil after)
    | cons row rows => exact ⟨start ++ c :: row, by simp, by simp⟩

/-! ### Words in a text -/

/-- A cursor in a text: what is left is the end of the text, and the place is the one where it starts. -/
def Cursor.StandsIn (text : List Char) (cursor : Cursor) : Prop :=
  ∃ before, text = before ++ cursor.rest ∧ cursor.place = Place.first.after before

/-- A word in a text, at its place. -/
def Token.StandsIn (text : List Char) (token : Token) : Prop :=
  ∃ before c word after, token.text = c :: word ∧ isBlank c = false ∧
    text = before ++ (token.text ++ after) ∧ token.place = Place.first.after before

theorem ne_newline_of_solid (solid : isBlank c = false) : c ≠ '\n' := by
  rintro rfl
  exact absurd solid (by decide)

theorem Token.StandsIn.inside {token : Token} (stands : token.StandsIn text) :
    token.place.Inside text := by
  obtain ⟨before, c, word, after, shape, solid, whole, place⟩ := stands
  rw [place, whole, shape]
  exact inside_after before (ne_newline_of_solid solid) _

/-- The start of a word stands at the place of the word. -/
theorem Token.StandsIn.startsAt {start : List Char} {token : Token} (stands : token.StandsIn text)
    (isStart : start <+: token.text) : StartsAt text token.place start := by
  refine ⟨stands.inside, ?_⟩
  obtain ⟨before, c, word, after, _, _, whole, place⟩ := stands
  rw [place, whole, textFrom_after]
  exact isStart.trans (List.prefix_append _ _)

/-- **Along a run over a text**, the words so far stand in it, one before the other, and the cursor
behind them. -/
structure Along (text : List Char) (words : List Token) (cursor : Cursor) : Prop where
  stand : ∀ word ∈ words, word.StandsIn text
  ordered : words.Pairwise fun word later => word.place.Before later.place
  behind : ∀ word ∈ words, word.place.Before cursor.place
  cursor : cursor.StandsIn text

theorem Along.sublist {words fewer : List Token} (along : Along text words cursor)
    (kept : fewer.Sublist words) : Along text fewer cursor where
  stand word member := along.stand word (kept.subset member)
  ordered := along.ordered.sublist kept
  behind word member := along.behind word (kept.subset member)
  cursor := along.cursor

theorem Cursor.StandsIn.move (stands : cursor.StandsIn text) (whole : word ++ rest = cursor.rest) :
    Cursor.StandsIn text ⟨rest, cursor.place.after word⟩ := by
  obtain ⟨before, same, place⟩ := stands
  refine ⟨before ++ word, by rw [same, ← whole, List.append_assoc], ?_⟩
  rw [place]
  exact (List.foldl_append ..).symm

/-- Going on over a part of the text keeps what is along the run. -/
theorem Along.move {words : List Token} (along : Along text words cursor) (nonempty : word ≠ [])
    (whole : word ++ rest = cursor.rest) :
    Along text words ⟨rest, cursor.place.after word⟩ where
  stand := along.stand
  ordered := along.ordered
  behind other member := (along.behind other member).trans (Place.before_after _ nonempty)
  cursor := along.cursor.move whole

theorem Along.add {words : List Token} (along : Along text words cursor) (kind : Terminal)
    (solid : ∃ c tail, word = c :: tail ∧ isBlank c = false) (whole : word ++ rest = cursor.rest) :
    Along text (words ++ [⟨kind, word, cursor.place⟩]) ⟨rest, cursor.place.after word⟩ := by
  obtain ⟨c, tail, shape, isSolid⟩ := solid
  have nonempty : word ≠ [] := by rw [shape]; exact List.cons_ne_nil _ _
  have moved := along.move nonempty whole
  have here : Token.StandsIn text ⟨kind, word, cursor.place⟩ := by
    obtain ⟨before, same, stands⟩ := along.cursor
    exact ⟨before, c, tail, rest, shape, isSolid, by rw [same, whole], stands⟩
  refine ⟨?_, ?_, ?_, moved.cursor⟩
  · intro other member
    rcases List.mem_append.mp member with earlier | added
    · exact along.stand other earlier
    · rwa [List.mem_singleton.mp added]
  · refine List.pairwise_append.mpr ⟨along.ordered, List.pairwise_singleton _ _, ?_⟩
    intro other earlier last added
    rw [List.mem_singleton.mp added]
    exact along.behind other earlier
  · intro other member
    rcases List.mem_append.mp member with earlier | added
    · exact moved.behind other earlier
    · rw [List.mem_singleton.mp added]
      exact Place.before_after _ nonempty

/-- What a scan leaves along a run: the next word behind those before, or something solid that is stuck. -/
def Scan.Stands (text : List Char) (words : List Token) : Scan → Prop
  | .token word next => Along text (words ++ [word]) next
  | .stuck cursor => cursor.place.Inside text
  | .finish => True

/-- **The next word stands behind those before.** -/
theorem Along.nextToken {words : List Token} (along : Along text words cursor) (allowed : List Terminal) :
    (nextToken allowed cursor).Stands text words := by
  fun_induction Source.nextToken allowed cursor with
  | case1 => trivial
  | case2 cursor nonempty none_found =>
    obtain ⟨c, rest, shape⟩ := List.exists_cons_of_ne_nil (by simpa using nonempty)
    obtain ⟨before, same, place⟩ := along.cursor
    rw [Scan.Stands, place, same, shape]
    refine inside_after before ?_ rest
    rintro rfl
    rw [shape, firstWord?_layout allowed (by decide)] at none_found
    cases none_found
  | case3 cursor nonempty kind word rest taken after ignored ih =>
    obtain ⟨_, cut⟩ := firstWord?_eq_some taken
    obtain ⟨c, tail, shape, _⟩ := Terminal.exists_start cut
    exact ih (along.move (by rw [shape]; exact List.cons_ne_nil _ _) (Terminal.lexeme?_splits _ _ _ _ cut).2)
  | case4 cursor nonempty kind word rest taken after kept =>
    obtain ⟨_, cut⟩ := firstWord?_eq_some taken
    obtain ⟨c, tail, shape, _, starts⟩ := Terminal.exists_start cut
    exact along.add kind ⟨c, tail, shape, Terminal.solid_of_mayStart (by simpa using kept) starts⟩
      (Terminal.lexeme?_splits _ _ _ _ cut).2

/-! ### The words that give places -/

/-- The words of a unit that give places: its name, its entries, and the patterns of its arms. -/
def Header.words (header : Header) : List Token := header.name :: header.entries

@[inherit_doc Header.words]
def RawUnit.words (unit : RawUnit) : List Token := unit.header.words ++ unit.arms.map RawArm.pattern

/-- The words of the unit that is being read. -/
def State.words : State → List Token
  | .start => []
  | .named name => [name]
  | .described header | .opened header | .matching header | .subject header _ => header.words
  | .block unit | .closing unit => unit.words
  | .patterned unit pattern | .arrowed unit pattern | .commanded unit pattern _
  | .calling unit pattern _ _ | .called unit pattern _ _ => unit.words ++ [pattern]

def Step.words : Step → List Token
  | .go state => state.words
  | .complete unit => unit.words

theorem RawUnit.words_addArm (unit : RawUnit) (pattern : Token) (action : RawAction) :
    (unit.addArm pattern action).words = unit.words ++ [pattern] := by
  simp [RawUnit.words, RawUnit.addArm]

theorem words_afterArm (unit : RawUnit) (token : Token) :
    (afterArm unit token).words.Sublist (unit.words ++ [token]) := by
  unfold afterArm
  split
  · exact List.sublist_append_left _ _
  · exact List.Sublist.refl _

/-- **A step of the grammar adds its word at the end**, or drops it. -/
theorem State.words_accept (state : State) (token : Token) :
    (state.accept token).words.Sublist (state.words ++ [token]) := by
  cases state with
  | start | named name | block unit => exact List.Sublist.refl _
  | described header =>
    rw [State.accept]
    split
    · exact List.sublist_append_left _ _
    · exact List.Sublist.refl _
  | opened header | matching header | patterned unit pattern | closing unit =>
    exact List.sublist_append_left _ _
  | subject header word =>
    simp only [State.accept, Step.words, State.words, RawUnit.words, List.map_nil, List.append_nil]
    exact List.sublist_append_left _ _
  | calling unit pattern command targets => exact List.sublist_append_left _ _
  | arrowed unit pattern =>
    rw [State.accept]
    split
    · exact List.sublist_append_left _ _
    · exact List.sublist_append_left _ _
  | commanded unit pattern command =>
    rw [State.accept]
    split
    · exact List.sublist_append_left _ _
    · exact (words_afterArm _ token).trans (by rw [RawUnit.words_addArm]; exact List.Sublist.refl _)
  | called unit pattern command targets =>
    rw [State.accept]
    split
    · exact List.sublist_append_left _ _
    · exact (words_afterArm _ token).trans (by rw [RawUnit.words_addArm]; exact List.Sublist.refl _)

/-- What reading a text gives: units whose words stand in it in order, or a fault in the text. -/
def Places (text : List Char) : Except Malformed (List RawUnit) → Prop
  | .ok units => ∃ cursor, Along text (units.flatMap RawUnit.words) cursor
  | .error malformed => malformed.place.Inside text

/-- **All words that the grammar keeps stand in the text, and so does a fault.** Behind a word that is
not the last of a unit, the end of the text is told at that word. -/
theorem runGrammar_places (state : State) (last : Place) (units : List RawUnit) (cursor : Cursor)
    (along : Along text (units.flatMap RawUnit.words ++ state.words) cursor)
    (lastInside : state ≠ .start → last.Inside text) : Places text (runGrammar state last units cursor) := by
  fun_induction runGrammar state last units cursor with
  | case1 state last units cursor stuck found =>
    have scanned := along.nextToken state.expected
    rw [found] at scanned
    have place : (malformedAt state.expected stuck).place = stuck.place := by
      unfold malformedAt
      split
      · rfl
      · split <;> rfl
    rw [Places, place]
    exact scanned
  | case2 last units cursor found =>
    exact ⟨cursor, along.sublist (List.sublist_append_left _ _)⟩
  | case3 state last units cursor found notStart => exact lastInside notStart
  | case4 state last units cursor token next found reached accepted ih =>
    have scanned := along.nextToken state.expected
    rw [found] at scanned
    have kept := state.words_accept token
    rw [accepted] at kept
    refine ih (scanned.sublist ?_) fun _ => (scanned.stand token (by simp)).inside
    rw [List.append_assoc]
    exact kept.append_left _
  | case5 state last units cursor token next found unit accepted ih =>
    have scanned := along.nextToken state.expected
    rw [found] at scanned
    have kept := state.words_accept token
    rw [accepted] at kept
    refine ih (scanned.sublist ?_) fun notStart => absurd rfl notStart
    rw [List.flatMap_append, List.append_assoc, List.append_assoc]
    exact List.Sublist.append_left (by simpa [State.words, Step.words] using kept) _

/-- **Reading a text keeps to its places.** -/
theorem readUnits_places (text : List Char) : Places text (readUnits text) := by
  have start : Along text [] ⟨text, Place.first⟩ :=
    ⟨by simp, List.Pairwise.nil, by simp, ⟨[], rfl, rfl⟩⟩
  exact runGrammar_places .start Place.first [] _ start fun notStart => absurd rfl notStart

/-! ### What is built from words -/

/-- A fault is told at one of some words. -/
def FaultsAt (origin : Option String) (words : List Token) (error : ReadError) : Prop :=
  ∀ fault, error = .fault fault → ∃ word ∈ words, ∃ message,
    fault = .source .malformed message (word.place.location origin)

theorem FaultsAt.mono {words more : List Token} (faults : FaultsAt origin words error) (inside : words ⊆ more) :
    FaultsAt origin more error := by
  intro fault same
  obtain ⟨word, member, told⟩ := faults fault same
  exact ⟨word, inside member, told⟩

theorem faultsAt_faultAt (origin : Option String) {words : List Token} {word : Token} (member : word ∈ words)
    (message : String) : FaultsAt origin words (faultAt origin word.place message) := by
  intro fault same
  cases same
  exact ⟨word, member, message, rfl⟩

theorem faultsAt_buildRegex {word : Token} {source flags : String} {delimiter : Delimiter}
    (refused : buildRegex origin word.place source flags delimiter = .error error) :
    FaultsAt origin [word] error := by
  unfold buildRegex at refused
  split at refused
  · cases refused
  · cases refused
  · cases refused
    exact faultsAt_faultAt origin List.mem_cons_self _
  · cases refused
    intro fault same
    cases same

theorem faultsAt_buildPattern {word : Token} (refused : buildPattern origin word = .error error) :
    FaultsAt origin [word] error := by
  unfold buildPattern at refused
  split at refused
  · exact faultsAt_buildRegex refused
  · exact faultsAt_buildRegex refused
  · cases refused

theorem faultsAt_buildArms {arms : List RawArm} (refused : buildArms origin arms = .error error) :
    FaultsAt origin (arms.map RawArm.pattern) error := by
  induction arms with
  | nil => cases refused
  | cons arm arms ih =>
    rw [buildArms] at refused
    split at refused
    · rename_i pattern
      cases refused
      exact (faultsAt_buildPattern pattern).mono (by simp)
    · split at refused
      · rename_i later
        cases refused
        exact (ih later).mono (List.subset_cons_self _ _)
      · cases refused

theorem faultsAt_buildEntries {unit : String} {before : List MetaEntry} {words : List Token}
    (refused : buildEntries origin unit before words = .error error) : FaultsAt origin words error := by
  induction words generalizing before with
  | nil => cases refused
  | cons word words ih =>
    rw [buildEntries] at refused
    simp only at refused
    split at refused
    · cases refused
      exact faultsAt_faultAt origin List.mem_cons_self _
    · split at refused
      · cases refused
        exact faultsAt_faultAt origin List.mem_cons_self _
      · split at refused
        · cases refused
          exact faultsAt_faultAt origin List.mem_cons_self _
        · exact (ih refused).mono (List.subset_cons_self _ _)

theorem faultsAt_buildUnit {unit : RawUnit} (refused : buildUnit origin unit = .error error) :
    FaultsAt origin unit.words error := by
  unfold buildUnit at refused
  split at refused
  · rename_i arms
    cases refused
    exact (faultsAt_buildArms arms).mono (List.subset_append_right _ _)
  · simp only at refused
    split at refused
    · rename_i entries
      cases refused
      refine (faultsAt_buildEntries entries).mono ?_
      exact List.Subset.trans (List.subset_cons_self _ _) (List.subset_append_left _ _)
    · cases refused

/-- **A fault of building is told at a word.** -/
theorem faultsAt_buildUnits {units : List RawUnit} (refused : buildUnits origin units = .error error) :
    FaultsAt origin (units.flatMap RawUnit.words) error := by
  induction units with
  | nil => cases refused
  | cons unit units ih =>
    rw [buildUnits] at refused
    rw [List.flatMap_cons]
    split at refused
    · rename_i first
      cases refused
      exact (faultsAt_buildUnit first).mono (List.subset_append_left _ _)
    · split at refused
      · rename_i rest
        cases refused
        exact (ih rest).mono (List.subset_append_right _ _)
      · cases refused

theorem lines_of_buildArms {words : List RawArm} {arms : List Arm} (built : buildArms origin words = .ok arms) :
    arms.map Arm.line = words.map fun word => word.pattern.place.line := by
  induction words generalizing arms with
  | nil =>
    cases built
    rfl
  | cons word words ih =>
    rw [buildArms] at built
    split at built
    · cases built
    · split at built
      · cases built
      · rename_i rest isRest
        cases built
        rw [List.map_cons, List.map_cons, ih isRest]

/-- The places of a unit are those of its words. -/
theorem places_of_buildUnit {words : RawUnit} {unit : PromptUnit} (built : buildUnit origin words = .ok unit) :
    unit.place = words.header.name.place ∧
      unit.arms.map Arm.line = words.arms.map fun word => word.pattern.place.line := by
  unfold buildUnit at built
  split at built
  · cases built
  · rename_i arms isArms
    simp only at built
    split at built
    · cases built
    · cases built
      exact ⟨rfl, lines_of_buildArms isArms⟩

/-- The key of an entry starts its word, if the word starts with something solid. -/
theorem entryKey_prefix (solid : isBlank c = false) (word : List Char) :
    (entryKey (c :: word)).toList <+: c :: word := by
  rw [entryKey, String.toList_ofList, trim, trimEnd, dropEndWhile_eq_rdropWhile]
  refine (List.rdropWhile_prefix _ _).trans ?_
  have same : trimStart ((c :: word).takeWhile (· != ':')) = (c :: word).takeWhile (· != ':') := by
    by_cases colon : c = ':'
    · simp [colon, trimStart]
    · simp [colon, trimStart, solid]
  rw [same]
  exact List.takeWhile_prefix _

/-- **A unit in a source**: its name and the keys of its metadata stand where they are said to stand, and
its arms are on lines of the source, none above the arm before it. -/
structure Located (text : List Char) (unit : PromptUnit) : Prop where
  name : StartsAt text unit.place unit.name.toList
  keys : ∀ entry ∈ unit.entries, StartsAt text entry.place entry.key.toList
  arms : ∀ arm ∈ unit.arms, 1 ≤ arm.line ∧ arm.line ≤ text.count '\n' + 1
  ordered : unit.arms.Pairwise fun arm later => arm.line ≤ later.line

theorem located_of_buildUnit {words : RawUnit} {unit : PromptUnit} (built : buildUnit origin words = .ok unit)
    (stand : ∀ word ∈ words.words, word.StandsIn text)
    (ordered : words.words.Pairwise fun word later => word.place.Before later.place) :
    Located text unit := by
  obtain ⟨place, armLines⟩ := places_of_buildUnit built
  have made := builtUnit_of_buildUnit built
  have patternLines : ∀ arm ∈ unit.arms, ∃ word ∈ words.words, arm.line = word.place.line := by
    intro arm member
    have isLine := List.mem_map_of_mem (f := Arm.line) member
    rw [armLines] at isLine
    obtain ⟨raw, isArm, same⟩ := List.mem_map.mp isLine
    exact ⟨raw.pattern, List.mem_append_right _ (List.mem_map_of_mem isArm), same.symm⟩
  refine ⟨?_, ?_, ?_, ?_⟩
  · rw [place, made.name, Token.string, String.toList_ofList]
    exact (stand _ List.mem_cons_self).startsAt (List.prefix_refl _)
  · intro entry member
    rw [made.entries.values] at member
    obtain ⟨word, isWord, rfl⟩ := List.mem_map.mp member
    have stands := stand word (List.mem_append_left _ (List.mem_cons_of_mem _ isWord))
    refine stands.startsAt ?_
    obtain ⟨_, c, tail, _, shape, solid, _⟩ := stands
    show (entryKey word.text).toList <+: word.text
    rw [shape]
    exact entryKey_prefix solid tail
  · intro arm member
    obtain ⟨word, isWord, same⟩ := patternLines arm member
    rw [same]
    exact ⟨(stand word isWord).inside.someLine, (stand word isWord).inside.lineLeft⟩
  · have patterns := ((List.pairwise_append.mp ordered).2.1).imp Place.Before.line_le
    rw [List.pairwise_map] at patterns
    have ascending : (unit.arms.map Arm.line).Pairwise (· ≤ ·) := by
      rw [armLines, List.pairwise_map]
      exact patterns
    exact List.pairwise_map.mp ascending

/-- **Places point at what they name**: a fault of a source is told at a place in it; and of the units that
are read, the names, the keys and the arms stand where they are said to stand, each unit behind the one
before. Places count in the text whose line ends of two characters are newlines. -/
theorem parseUnits_locates (origin : Option String) (source : String) :
    (∀ fault, parseUnits origin source = .error (.fault fault) → ∃ (place : Place) (message : String),
        place.Inside (normalizeNewlines source.toList) ∧
          fault = .source .malformed message (place.location (origin.filter (· != "")))) ∧
      ∀ units, parseUnits origin source = .ok units →
        (∀ unit ∈ units, Located (normalizeNewlines source.toList) unit) ∧
          units.Pairwise fun unit later => unit.place.Before later.place := by
  have places := readUnits_places (normalizeNewlines source.toList)
  unfold parseUnits
  simp only
  cases read : readUnits (normalizeNewlines source.toList) with
  | error malformed =>
    rw [read] at places
    refine ⟨?_, by rintro units ⟨⟩⟩
    intro fault same
    cases same
    exact ⟨malformed.place, malformed.problem.message, places, rfl⟩
  | ok words =>
    rw [read] at places
    obtain ⟨cursor, along⟩ := places
    have ordered := List.pairwise_flatMap.mp along.ordered
    refine ⟨?_, ?_⟩
    · intro fault refused
      obtain ⟨word, member, message, told⟩ := faultsAt_buildUnits refused fault rfl
      exact ⟨word.place, message, (along.stand word member).inside, told⟩
    · intro units built
      have each := forall₂_of_buildUnits built
      refine ⟨?_, ?_⟩
      · intro unit member
        obtain ⟨word, isWord, made⟩ := exists_of_forall₂ each member
        exact located_of_buildUnit made
          (fun token inUnit => along.stand token (List.mem_flatMap.mpr ⟨word, isWord, inUnit⟩))
          (ordered.1 word isWord)
      · have names : units.map PromptUnit.place = words.map fun word => word.header.name.place := by
          symm
          rw [← List.forall₂_eq_eq_eq, List.forall₂_map_left_iff, List.forall₂_map_right_iff]
          exact each.imp fun word unit made => (places_of_buildUnit made).1.symm
        have ascending : (units.map PromptUnit.place).Pairwise Place.Before := by
          rw [names, List.pairwise_map]
          refine ordered.2.imp fun before => ?_
          exact before _ List.mem_cons_self _ List.mem_cons_self
        exact List.pairwise_map.mp ascending

end Source

end PromptChain
