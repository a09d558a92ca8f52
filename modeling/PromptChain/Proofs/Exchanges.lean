/-
**Words with other text behind them.**

A word is cut off a text as before when other text takes the place of what stands behind it
(`Terminal.lexeme?_exchange`), and the grammar reads it as the next word (`nextToken_exchange`). Two kinds of
words look further ahead. A regular expression in parentheses is followed by its arrow. A metadata entry
goes on up to the keyword of its match block or another key: what follows the keyword does not matter
(`entryWord_keyword`), and the keyword is there in every source that is read on into the match block
(`Leads.keyword_of_described`).
-/

import PromptChain.Proofs.Parsed

namespace PromptChain.Source

open Text

variable {rest text word opening : List Char} {c : Char} {kind : Terminal} {state final : State}
  {cursor last : Cursor} {token : Token} {header : Header} {other : List Char}

/-! ### Words with other text behind them -/

/-- What a text must have in common with one that takes its place: a run of characters that stops there, and
that layout and comments stop too, still stops. -/
def Yields (rest other : List Char) : Prop :=
  ∀ test : Char → Bool, (∀ c, isLayout c = true ∨ c = '#' → test c = false) → Stops test rest → Stops test other

theorem Yields.append (yields : Yields rest other) (front : List Char) :
    Yields (front ++ rest) (front ++ other) := by
  cases front with
  | nil => exact yields
  | cons c front =>
    intro test _ stops d member
    exact stops d member

/-- Layout and comments stop a run whatever stood in their place. -/
theorem yields_layout (layout : isLayout c = true ∨ c = '#') (rest other : List Char) :
    Yields rest (c :: other) :=
  fun _ blind _ => Stops.cons (blind c layout) other

theorem not_isExportChar_of_layout (layout : isLayout c = true ∨ c = '#') : isExportChar c = false := by
  rcases layout with layout | rfl
  · by_contra inName
    rw [isLayout_of_isExportChar (by simpa using inName)] at layout
    cases layout
  · decide

theorem Yields.ofName (yields : Yields rest other) {test : Char → Bool}
    (inName : ∀ c, test c = true → isExportChar c = true) (stops : Stops test rest) :
    Stops test other := by
  refine yields test (fun c layout => ?_) stops
  by_contra passes
  have isName := inName c (by simpa using passes)
  rw [not_isExportChar_of_layout layout] at isName
  cases isName

/-- A letter behind a pattern could stand in a name. -/
theorem isExportChar_of_isFlagLetter (letter : isFlagLetter c = true) : isExportChar c = true := by
  simp only [isFlagLetter, Bool.or_eq_true, beq_iff_eq] at letter
  rcases letter with ((rfl | rfl) | rfl) | rfl
  · decide
  · decide
  · decide
  · decide

theorem stringTail_exchange (cut : stringTail text = some (word, rest)) (other : List Char) :
    stringTail (word ++ other) = some (word, other) := by
  fun_induction stringTail text generalizing word with
  | case1 => cases cut
  | case2 after =>
    cases cut
    rfl
  | case3 => cases cut
  | case4 c after notNewline ih =>
    obtain ⟨_, pushed, rfl⟩ := Cut.push_eq_some cut
    obtain ⟨inner, taken, rfl⟩ := Cut.push_eq_some pushed
    rw [List.cons_append, List.cons_append, stringTail, if_neg notNewline, ih taken]
    rfl
  | case5 => cases cut
  | case6 c after notQuote notEscape solid ih =>
    obtain ⟨inner, taken, rfl⟩ := Cut.push_eq_some cut
    rw [List.cons_append, stringTail, if_neg solid, ih taken]
    · rfl
    · exact notQuote
    · intro d more same
      simp [same] at solid

theorem stringFlag_plain (plain : Stops (· == 'i') rest) :
    stringFlag (word, rest) = (word, rest) := by
  cases rest with
  | nil => rfl
  | cons c rest =>
    have other : c ≠ 'i' := by simpa using plain c rfl
    simp [stringFlag, other]

/-- A string literal is cut off as before, with its letter or without one. -/
theorem lexeme?_string_exchange (cut : Terminal.string.lexeme? ('"' :: text) = some (word, rest))
    (yields : Yields rest other) :
    Terminal.string.lexeme? (word ++ other) = some (word, other) := by
  simp only [Terminal.lexeme?, Cut.push, Option.map_map, Option.map_eq_some_iff, Function.comp_apply] at cut
  obtain ⟨⟨inner, behind⟩, taken, same⟩ := cut
  have again := stringTail_exchange taken
  by_cases plain : Stops (· == 'i') behind
  · rw [stringFlag_plain plain] at same
    obtain ⟨rfl, rfl⟩ := Prod.mk.inj same
    have plainToo : Stops (· == 'i') other := by
      refine yields.ofName (fun c letter => ?_) plain
      rw [beq_iff_eq.mp letter]
      decide
    rw [List.cons_append, Terminal.lexeme?, again]
    exact congrArg some (stringFlag_plain plainToo)
  · obtain ⟨more, rfl⟩ : ∃ more, behind = 'i' :: more := by
      rcases behind with _ | ⟨c, more⟩
      · exact absurd (Stops.nil _) plain
      · by_cases letter : c = 'i'
        · exact ⟨more, by rw [letter]⟩
        · exact absurd (Stops.cons (by simpa using letter) more) plain
    cases same
    rw [List.cons_append, List.cons_append, List.append_assoc, List.singleton_append, Terminal.lexeme?, again]
    rfl

theorem arrowFollows_of_parenTail (cut : parenTail text = some (word, rest)) :
    arrowFollows rest = true := by
  fun_induction parenTail text generalizing word with
  | case1 => cases cut
  | case2 c after closes =>
    cases cut
    exact (Bool.and_eq_true _ _ ▸ closes).2
  | case3 => cases cut
  | case4 c after goesOn notNewline ih =>
    obtain ⟨inner, taken, _⟩ := Cut.push_eq_some cut
    exact ih taken

theorem arrowFollows_of_lexeme? (cut : Terminal.parenRegex.lexeme? text = some (word, rest)) :
    arrowFollows rest = true := by
  obtain ⟨c, tail, _, rfl, starts⟩ := Terminal.exists_start cut
  obtain rfl : c = '(' := by simpa [Terminal.mayStart] using starts
  obtain ⟨inner, taken, _⟩ := Cut.push_eq_some cut
  exact arrowFollows_of_parenTail taken

/-! ### Metadata entries with other text behind them -/

/-- The keyword of a match block with a text behind it. -/
def keywordThen (text : List Char) : List Char := 'm' :: 'a' :: 't' :: 'c' :: 'h' :: text

/-- A text that no word goes on in. -/
abbrev Apart (text : List Char) : Prop := Stops (fun c => isWordCode c.toNat) text

theorem isWordCode_of_layout (c : Char) (layout : isLayout c = true ∨ c = '#') :
    isWordCode c.toNat = false := by
  simp only [isLayout, Bool.or_eq_true, beq_iff_eq] at layout
  rcases layout with ((((rfl | rfl) | rfl) | rfl) | rfl) | rfl <;> decide

theorem stops_keywordThen {test : Char → Bool} (fails : test 'm' = false) (text : List Char) :
    Stops test (keywordThen text) := Stops.cons fails _

/-- A known key is found before the keyword or not at all. -/
theorem startsKnownKey_keyword (line text : List Char) :
    startsKnownKey (line ++ keywordThen text) = startsKnownKey line := by
  have apart : ∀ key ∈ metadataKeys, ∀ c ∈ (keywordThen text).head?, c ∉ key.toList := by
    intro key known c member
    cases member
    revert key
    decide
  unfold startsKnownKey
  rw [Bool.eq_iff_iff, List.any_eq_true, List.any_eq_true]
  refine exists_congr fun key => and_congr_right fun known => ?_
  rw [dropPrefix?_append_apart (apart key known)]
  cases dropPrefix? line key.toList with
  | none => rfl
  | some after =>
    have indent : Stops isTabOrSpace (keywordThen text) := stops_keywordThen (by decide) text
    rw [Option.map_some]
    simp only [dropWhile_append_of_stops indent]
    cases after.dropWhile isTabOrSpace with
    | nil => simp [keywordThen]
    | cons c more => simp

/-- Whether the keyword is found, at its place or before it, does not depend on what follows it. -/
theorem startsMatch_keyword (line : List Char) (apart : Apart text) (apartToo : Apart other) :
    startsMatch (line ++ keywordThen text) = startsMatch (line ++ keywordThen other) := by
  cases line with
  | nil =>
    have found : ∀ text, Apart text → startsMatch (keywordThen text) = true := by
      intro text apart
      have cut : dropPrefix? (keywordThen text) "match".toList = some text :=
          dropPrefix?_self "match".toList text
      rw [startsMatch, cut]
      cases text with
      | nil => rfl
      | cons c text => simpa using apart c rfl
    rw [List.nil_append, List.nil_append, found text apart, found other apartToo]
  | cons c line =>
    by_cases letter : c = 'm'
    · have behind : ∀ text, dropPrefix? (c :: line ++ keywordThen text) "match".toList
          = (dropPrefix? line "atch".toList).map (· ++ keywordThen text) := by
        intro text
        rw [letter]
        have skip : dropPrefix? ('m' :: line ++ keywordThen text) "match".toList
            = dropPrefix? (line ++ keywordThen text) "atch".toList := by
          simp [dropPrefix?]
        rw [skip]
        refine dropPrefix?_append_apart ?_
        intro d member
        cases member
        decide
      rw [startsMatch, startsMatch, behind, behind]
      cases dropPrefix? line "atch".toList with
      | none => rfl
      | some after => cases after <;> rfl
    · have missing : ∀ text, dropPrefix? (c :: line ++ keywordThen text) "match".toList = none := by
        intro text
        simp [dropPrefix?, letter]
      rw [startsMatch, startsMatch, missing, missing]

/-- **What closes a block before a keyword** closes it whatever follows the keyword. -/
theorem closesBlock_keyword {line : List Char} (nonempty : line ≠ []) (apart : Apart text)
    (apartToo : Apart other) :
    closesBlock (line ++ keywordThen text) = closesBlock (line ++ keywordThen other) := by
  obtain ⟨c, line, rfl⟩ := List.exists_cons_of_ne_nil nonempty
  rw [closesBlock, closesBlock, startsKnownKey_keyword, startsKnownKey_keyword]
  by_cases brace : c = '{'
  · have solid : ∀ text, Stops isBlank (keywordThen text) := stops_keywordThen (by decide)
    rw [brace, List.cons_append, List.cons_append, opensMatch_brace, opensMatch_brace,
      dropWhile_append_of_stops (solid text), dropWhile_append_of_stops (solid other),
      startsMatch_keyword _ apart apartToo]
  · rw [List.cons_append, List.cons_append, opensMatch_of_ne brace, opensMatch_of_ne brace]

/-- Something solid of what is left behind a value stands before the keyword. -/
theorem exists_solid_of_continuation {front : List Char}
    (left : (continuation (front ++ keywordThen text)).2 = opening ++ keywordThen text)
    (solid : ∃ c ∈ opening, isBlank c = false) : ∃ c ∈ front, isBlank c = false := by
  have whole := continuation_append (front ++ keywordThen text)
  rw [left, ← List.append_assoc] at whole
  obtain ⟨c, member, notBlank⟩ := solid
  rw [← List.append_cancel_right whole]
  exact ⟨c, List.mem_append_right _ member, notBlank⟩

/-- A line with something of the value behind it ends before the keyword. -/
theorem newline_mem_of_continuation {front : List Char}
    (left : (continuation ((front ++ keywordThen text).dropWhile (· != '\n'))).2 = opening ++ keywordThen text) :
    '\n' ∈ front := by
  by_contra flat
  have onLine : ∀ c ∈ front ++ ['m', 'a', 't', 'c', 'h'], (c != '\n') = true := by
    intro c member
    rw [bne_iff_ne]
    rintro rfl
    rcases List.mem_append.mp member with inFront | inKeyword
    · exact flat inFront
    · exact absurd inKeyword (by decide)
  have shape : front ++ keywordThen text = (front ++ ['m', 'a', 't', 'c', 'h']) ++ text := by simp [keywordThen]
  have whole := congrArg List.length
    (continuation_append ((front ++ keywordThen text).dropWhile (· != '\n')))
  rw [left, shape, List.dropWhile_append_of_pos onLine] at whole
  have short := (List.dropWhile_suffix (l := text) (· != '\n')).length_le
  simp only [List.length_append, keywordThen, List.length_cons] at whole
  omega

/-- What is done with a line, where the indentation ends before a text. -/
theorem continuation_line {front line : List Char} (isLine : front.dropWhile isTabOrSpace = line)
    (indent : Stops isTabOrSpace text) :
    continuation ('\n' :: front ++ text) =
      if (line ++ text).head? = some '\n' then
        ('\n' :: front.takeWhile isTabOrSpace ++ (continuation (line ++ text)).1,
          (continuation (line ++ text)).2)
      else if (front.takeWhile isTabOrSpace).isEmpty || closesBlock (line ++ text) then
        ([], '\n' :: front ++ text)
      else
        ('\n' :: front.takeWhile isTabOrSpace ++ (line ++ text).takeWhile (· != '\n')
            ++ (continuation ((line ++ text).dropWhile (· != '\n'))).1,
          (continuation ((line ++ text).dropWhile (· != '\n'))).2) := by
  rw [List.cons_append, continuation]
  simp only [takeWhile_append_of_stops indent, dropWhile_append_of_stops indent, isLine, closesBlock,
    Bool.or_assoc]
  rfl

/-- **A value before a keyword ends where it ended**, whatever follows the keyword. -/
theorem continuation_keyword (front : List Char)
    (left : (continuation (front ++ keywordThen text)).2 = opening ++ keywordThen text)
    (solid : ∃ c ∈ opening, isBlank c = false) (apart : Apart text) (apartToo : Apart other) :
    continuation (front ++ keywordThen other)
      = ((continuation (front ++ keywordThen text)).1, opening ++ keywordThen other) := by
  induction isSize : front.length using Nat.strong_induction_on generalizing front with
  | _ size ih =>
  obtain ⟨c, member, notBlank⟩ := exists_solid_of_continuation left solid
  obtain ⟨first, front, rfl⟩ := List.exists_cons_of_ne_nil (List.ne_nil_of_mem member)
  by_cases newline : first = '\n'
  · subst newline
    obtain ⟨line, isLine⟩ : ∃ line, front.dropWhile isTabOrSpace = line := ⟨_, rfl⟩
    have shorter : line.length < size := by
      rw [← isSize, ← isLine]
      exact Nat.lt_succ_of_le (length_dropWhile_le _ _)
    have nonempty : line ≠ [] := by
      rintro rfl
      rcases List.mem_cons.mp member with rfl | inFront
      · cases notBlank
      · rw [isTabOrSpace_isBlank (List.dropWhile_eq_nil_iff.mp isLine c inFront)] at notBlank
        cases notBlank
    rw [continuation_line isLine (stops_keywordThen (by decide) text)] at left ⊢
    rw [continuation_line isLine (stops_keywordThen (by decide) other)]
    simp only [List.head?_append_of_ne_nil _ nonempty, closesBlock_keyword nonempty apartToo apart] at left ⊢
    by_cases emptyLine : line.head? = some '\n'
    · simp only [if_pos emptyLine] at left ⊢
      rw [ih _ shorter line left rfl]
    · simp only [if_neg emptyLine] at left ⊢
      split at left
      · rename_i closes
        rw [if_pos closes, if_pos closes, List.append_cancel_right left]
      · rename_i goesOn
        have ends : ∃ c ∈ line, (c != '\n') = false := ⟨'\n', newline_mem_of_continuation left, rfl⟩
        simp only [if_neg goesOn, dropWhile_append_of_exists _ ends, takeWhile_append_of_exists _ ends] at left ⊢
        rw [ih _ ((length_dropWhile_le _ _).trans_lt shorter) _ left rfl]
  · have stays : ∀ text, continuation (first :: front ++ text) = ([], first :: front ++ text) := by
      intro text
      rw [List.cons_append, continuation]
      rintro rest ⟨rfl, rfl⟩
      exact newline rfl
    rw [stays] at left ⊢
    rw [stays, List.append_cancel_right left]

/-- An entry by its parts: the key, blanks, a colon and the value. -/
theorem entryWord_parts (start : isExportStart c = true) {key blanks : List Char}
    (inKey : ∀ d ∈ key, isExportChar d = true) (areBlank : ∀ d ∈ blanks, isTabOrSpace d = true)
    (value : List Char) :
    entryWord (c :: (key ++ (blanks ++ ':' :: value))) =
      some (c :: (key ++ (blanks ++ ':' :: (value.takeWhile (· != '\n')
          ++ (continuation (value.dropWhile (· != '\n'))).1))),
        (continuation (value.dropWhile (· != '\n'))).2) := by
  have colon : Stops isTabOrSpace (':' :: value) := Stops.cons (by decide) _
  have keyEnds : Stops isExportChar (blanks ++ ':' :: value) := by
    cases blanks with
    | nil => exact Stops.cons (by decide) _
    | cons d blanks =>
      refine Stops.cons ?_ _
      by_contra inName
      have isBlank := isTabOrSpace_isBlank (areBlank d List.mem_cons_self)
      rw [isBlank_of_isExportChar (by simpa using inName)] at isBlank
      cases isBlank
  rw [entryWord]
  simp only [start, if_true, takeWhile_append_stops inKey keyEnds, dropWhile_append_stops inKey keyEnds,
    takeWhile_append_stops areBlank colon, dropWhile_append_stops areBlank colon]
  simp

/-- **An entry before a keyword is cut off as before**, whatever follows the keyword. -/
theorem entryWord_keyword {tail other : List Char}
    (cut : entryWord text = some (word, opening ++ keywordThen tail))
    (solid : ∃ c ∈ opening, isBlank c = false) (apart : Apart tail) (apartToo : Apart other) :
    entryWord (word ++ (opening ++ keywordThen other)) = some (word, opening ++ keywordThen other) := by
  cases text with
  | nil => cases cut
  | cons c text =>
    unfold entryWord at cut
    simp only at cut
    split at cut
    · rename_i start
      split at cut
      · rename_i value colon
        simp only [Option.some.injEq, Prod.mk.injEq] at cut
        obtain ⟨rfl, left⟩ := cut
        have below := continuation_append (value.dropWhile (· != '\n'))
        rw [left, ← List.append_assoc] at below
        have again := continuation_keyword _ (by rw [below]; exact left) solid apart apartToo
        rw [below, List.append_assoc] at again
        have nonempty : (continuation (value.dropWhile (· != '\n'))).1 ++ opening ≠ [] :=
          List.append_ne_nil_of_right_ne_nil _ (List.ne_nil_of_mem solid.choose_spec.1)
        have lineEnds : LineEnd ((continuation (value.dropWhile (· != '\n'))).1
            ++ (opening ++ keywordThen other)) := by
          have ends := stops_dropWhile (· != '\n') value
          rw [← below] at ends
          intro d member
          rw [← List.append_assoc, List.head?_append_of_ne_nil _ nonempty] at member
          exact ends d (by rw [List.head?_append_of_ne_nil _ nonempty]; exact member)
        have onLine : ∀ d ∈ value.takeWhile (· != '\n'), (d != '\n') = true := by
          intro d member
          exact List.mem_takeWhile_imp (p := (· != '\n')) member
        have whole := entryWord_parts start (fun d member => List.mem_takeWhile_imp (l := text) member)
          (fun d member => List.mem_takeWhile_imp (l := text.dropWhile isExportChar) member)
          (value.takeWhile (· != '\n') ++ ((continuation (value.dropWhile (· != '\n'))).1
            ++ (opening ++ keywordThen other)))
        rw [takeWhile_append_stops onLine lineEnds, dropWhile_append_stops onLine lineEnds, again] at whole
        simpa using whole
      · cases cut
    · cases cut

/-! ### Words of all kinds -/

theorem fixed_eq_some {start : List Char} (cut : fixed start text = some (word, rest)) :
    word = start ∧ text = start ++ rest := by
  rw [fixed, Option.map_eq_some_iff] at cut
  obtain ⟨after, found, same⟩ := cut
  cases same
  exact ⟨rfl, (dropPrefix?_append found).symm⟩

theorem stops_of_subject (cut : Terminal.subject.lexeme? ('$' :: text) = some (word, rest)) :
    Stops isExportChar rest := by
  rcases text with _ | ⟨c, text⟩
  · cases cut
  · rw [Terminal.lexeme?] at cut
    split at cut
    · cases cut
      exact stops_dropWhile _ _
    · cases cut

theorem stops_of_slash (cut : Terminal.slashRegex.lexeme? ('/' :: text) = some (word, rest)) :
    Stops isFlagLetter rest := by
  rcases text with _ | ⟨c, text⟩
  · cases cut
  · by_cases twice : c = '/'
    · simp [twice, Terminal.lexeme?] at cut
    · rw [Terminal.lexeme?, extend, Option.map_eq_some_iff] at cut
      · obtain ⟨⟨inner, behind⟩, _, same⟩ := cut
        cases same
        exact stops_dropWhile _ _
      · rintro more ⟨⟩
        exact twice rfl

/-- **A word is cut off as before** when other text comes behind it. -/
theorem Terminal.lexeme?_exchange (kept : kind.isIgnored = false)
    (cut : kind.lexeme? text = some (word, rest)) (yields : Yields rest other)
    (arrow : kind = .parenRegex → arrowFollows other = true)
    (keyword : kind = .entry → ∃ opening tail more, rest = opening ++ keywordThen tail ∧
      other = opening ++ keywordThen more ∧ (∃ c ∈ opening, isBlank c = false) ∧ Apart tail ∧ Apart more) :
    kind.lexeme? (word ++ other) = some (word, other) := by
  have isWord := isWord_of_lexeme? cut
  obtain ⟨c, tail, _, rfl, starts⟩ := Terminal.exists_start cut
  cases kind with
  | blank | comment => cases kept
  | matchWord | arrow | comma | openBrace | closeBrace =>
    rw [Terminal.lexeme?] at cut ⊢
    rw [(fixed_eq_some cut).1, fixed_append]
  | name =>
    rw [Terminal.lexeme?, if_pos (show isExportChar c = true from starts)] at cut
    have stops := stops_dropWhile isExportChar (tail ++ rest)
    rw [(Prod.mk.inj (Option.some.inj cut)).2] at stops
    exact lexeme?_name isWord (yields.ofName (fun _ => id) stops)
  | subject =>
    obtain rfl : c = '$' := by simpa [Terminal.mayStart] using starts
    obtain ⟨name, rfl, isSubject⟩ := isWord
    exact lexeme?_subject isSubject (yields.ofName (fun _ => id) (stops_of_subject cut))
  | shell =>
    obtain ⟨command, rfl, closed⟩ := isWord
    simpa using lexeme?_shell closed
  | parenRegex => exact lexeme?_paren isWord (arrow rfl)
  | string =>
    obtain rfl : c = '"' := by simpa [Terminal.mayStart] using starts
    exact lexeme?_string_exchange cut yields
  | slashRegex =>
    obtain rfl : c = '/' := by simpa [Terminal.mayStart] using starts
    have ends := yields.ofName (fun _ => isExportChar_of_isFlagLetter) (stops_of_slash cut)
    obtain ⟨source, flags, rfl, nonempty, isBody, letters⟩ := isWord
    have written := toList_formatPattern_slash (String.ofList source) (String.ofList flags)
    rw [String.toList_ofList, String.toList_ofList] at written
    rw [← written]
    exact lexeme?_slash (by rwa [String.toList_ofList]) (by rwa [String.toList_ofList])
      (by rwa [String.toList_ofList]) ends
  | entry =>
    obtain ⟨opening, tail, more, rfl, rfl, solid, apart, apartToo⟩ := keyword rfl
    rw [Terminal.lexeme?] at cut ⊢
    exact entryWord_keyword cut solid apart apartToo

/-- The kind of word that a character opens, where names, keys and the keyword count as one. -/
def openedBy (c : Char) : Terminal :=
  if isExportChar c then .name
  else if isLayout c then .blank
  else if c = '/' then .slashRegex
  else if c = '$' then .subject
  else if c = '(' then .parenRegex
  else if c = '"' then .string
  else if c = '\x60' then .shell
  else if c = '#' then .comment
  else if c = '=' then .arrow
  else if c = ',' then .comma
  else if c = '{' then .openBrace
  else .closeBrace

/-- Names, keys and the keyword as one kind. -/
def Terminal.family : Terminal → Terminal
  | .entry | .matchWord => .name
  | kind => kind

theorem Terminal.family_of_mayStart (starts : kind.mayStart c = true) :
    kind.family = openedBy c := by
  cases kind with
  | entry => rw [openedBy, if_pos (isExportChar_of_start starts)]; rfl
  | name => rw [openedBy, if_pos (show isExportChar c = true from starts)]; rfl
  | blank =>
    have notName : ¬ isExportChar c = true := by
      rw [not_isExportChar_of_layout (.inl starts)]
      decide
    rw [openedBy, if_neg notName, if_pos (show isLayout c = true from starts)]
    rfl
  | _ =>
    simp only [Terminal.mayStart, beq_iff_eq] at starts
    rw [starts]
    decide

/-- **Of the words that may come next, one kind alone starts with a given character.** -/
theorem State.eq_of_mayStart {other : Terminal} (tried : kind ∈ triedKinds state.expected)
    (otherTried : other ∈ triedKinds state.expected) (starts : kind.mayStart c = true)
    (otherStarts : other.mayStart c = true) : other = kind := by
  have families : ((triedKinds state.expected).map Terminal.family).Nodup := by
    cases state <;> exact of_decide_eq_true rfl
  refine List.inj_on_of_nodup_map families otherTried tried ?_
  rw [Terminal.family_of_mayStart starts, Terminal.family_of_mayStart otherStarts]

theorem lexeme?_of_firstWord?_none {kinds : List Terminal} (missing : firstWord? text kinds = none) :
    ∀ kind ∈ kinds, kind.lexeme? text = none := by
  induction kinds with
  | nil => simp
  | cons first kinds ih =>
    rw [firstWord?] at missing
    split at missing
    · cases missing
    · rename_i none_first
      exact List.forall_mem_cons.mpr ⟨none_first, ih missing⟩

theorem firstWord?_of_cut (tried : kind ∈ triedKinds state.expected)
    (cut : kind.lexeme? text = some (word, rest)) :
    firstWord? text (triedKinds state.expected) = some (kind, word, rest) := by
  cases found : firstWord? text (triedKinds state.expected) with
  | none =>
    rw [lexeme?_of_firstWord?_none found kind tried] at cut
    cases cut
  | some triple =>
    obtain ⟨other, otherWord, otherRest⟩ := triple
    obtain ⟨otherTried, otherCut⟩ := firstWord?_eq_some found
    obtain ⟨c, tail, _, shape, starts⟩ := Terminal.exists_start cut
    obtain ⟨d, otherTail, _, otherShape, otherStarts⟩ := Terminal.exists_start otherCut
    obtain ⟨rfl, _⟩ := List.cons.inj (shape.symm.trans otherShape)
    obtain rfl := State.eq_of_mayStart tried otherTried starts otherStarts
    rw [cut] at otherCut
    cases otherCut
    rfl

/-! ### The next word -/

/-- A word other than layout starts with something solid. -/
theorem Terminal.solid_of_mayStart (kept : kind.isIgnored = false) (starts : kind.mayStart c = true) :
    isBlank c = false := by
  cases kind with
  | entry => exact isBlank_of_isExportChar (isExportChar_of_start starts)
  | name => exact isBlank_of_isExportChar starts
  | blank | comment => cases kept
  | _ =>
    simp only [Terminal.mayStart, beq_iff_eq] at starts
    rw [starts]
    decide

theorem State.isIgnored_of_expected (expected : kind ∈ state.expected) :
    kind.isIgnored = false := by
  have each : state.expected.all (!Terminal.isIgnored ·) = true := by cases state <;> rfl
  simpa using List.all_eq_true.mp each kind expected

/-- Layout and comments are cut off as before when the text behind them starts as before, or ends a comment. -/
theorem lexeme?_ignored_exchange (ignored : kind.isIgnored = true)
    (cut : kind.lexeme? text = some (word, rest))
    (ends : other.head? = rest.head? ∨ kind = .comment ∧ LineEnd other) :
    kind.lexeme? (word ++ other) = some (word, other) := by
  -- Both are runs of characters that the rest of the text stops.
  have again : ∀ {test : Char → Bool} {tail : List Char}, (tail ++ rest).takeWhile test = tail →
      (tail ++ rest).dropWhile test = rest → (other.head? = rest.head? ∨ Stops test other) →
        (tail ++ other).takeWhile test = tail ∧ (tail ++ other).dropWhile test = other := by
    intro test tail taken left ends
    have passes : ∀ c ∈ tail, test c = true := by
      intro c member
      rw [← taken] at member
      exact List.mem_takeWhile_imp member
    have stops : Stops test other := by
      refine ends.elim (fun sameHead c member => ?_) id
      have stopped := stops_dropWhile test (tail ++ rest)
      rw [left] at stopped
      exact stopped c (sameHead ▸ member)
    exact ⟨takeWhile_append_stops passes stops, dropWhile_append_stops passes stops⟩
  obtain ⟨c, tail, rfl, rfl, starts⟩ := Terminal.exists_start cut
  cases kind with
  | blank =>
    have layout : isLayout c = true := starts
    rw [Terminal.lexeme?, if_pos layout] at cut
    obtain ⟨taken, left⟩ := Prod.mk.inj (Option.some.inj cut)
    obtain ⟨takenToo, leftToo⟩ := again (List.cons.inj taken).2 left (ends.imp_right fun ends => by cases ends.1)
    rw [List.cons_append, Terminal.lexeme?, if_pos layout, takenToo, leftToo]
  | comment =>
    obtain rfl : c = '#' := by simpa [Terminal.mayStart] using starts
    rw [Terminal.lexeme?] at cut
    obtain ⟨taken, left⟩ := Prod.mk.inj (Option.some.inj cut)
    obtain ⟨takenToo, leftToo⟩ := again (List.cons.inj taken).2 left (ends.imp_right And.right)
    rw [List.cons_append, Terminal.lexeme?, takenToo, leftToo]
  | _ => cases ignored

/-- **The next word is the same** when it is cut off as before. -/
theorem nextToken_exchange {next : Cursor}
    (found : nextToken state.expected cursor = .token token next)
    (again : token.kind.lexeme? (token.text ++ other) = some (token.text, other)) :
    ∃ skipped, cursor.rest = skipped ++ (token.text ++ next.rest) ∧
      nextToken state.expected ⟨skipped ++ (token.text ++ other), cursor.place⟩
        = .token token ⟨other, next.place⟩ := by
  obtain ⟨first, tail, shape, _⟩ := Terminal.exists_start again
  fun_induction nextToken state.expected cursor with
  | case1 => cases found
  | case2 => cases found
  | case3 cursor nonempty kind word rest taken after ignored ih =>
    obtain ⟨tried, cut⟩ := firstWord?_eq_some taken
    obtain ⟨skipped, split, foundToo⟩ := ih found
    change rest = _ at split
    have sameHead : (skipped ++ (token.text ++ other)).head? = rest.head? := by
      rw [split, shape]
      cases skipped <;> rfl
    have wordAgain := lexeme?_ignored_exchange ignored cut (.inl sameHead)
    obtain ⟨c, wordTail, wordShape, _⟩ := Terminal.exists_start cut
    refine ⟨word ++ skipped, ?_, ?_⟩
    · rw [← (Terminal.lexeme?_splits _ _ _ _ cut).2, split, List.append_assoc]
    · rw [List.append_assoc, nextToken_eq, firstWord?_of_cut tried wordAgain, if_neg (by simp [wordShape])]
      simp only [ignored, if_true]
      exact foundToo
  | case4 cursor nonempty kind word rest taken after kept =>
    simp only [Scan.token.injEq] at found
    obtain ⟨rfl, rfl⟩ := found
    obtain ⟨tried, cut⟩ := firstWord?_eq_some taken
    refine ⟨[], (Terminal.lexeme?_splits _ _ _ _ cut).2.symm, ?_⟩
    rw [List.nil_append, nextToken_eq, firstWord?_of_cut tried again, if_neg (by rw [shape]; simp)]
    simp only [kept]
    rfl

/-! ### Reading up to a boundary -/

/-- **The grammar reads on from one state and cursor to another**, word by word. -/
inductive Leads : State → Cursor → State → Cursor → Prop
  | here (state : State) (cursor : Cursor) : Leads state cursor state cursor
  | go {state reached final : State} {cursor next last : Cursor} {token : Token}
      (found : nextToken state.expected cursor = .token token next)
      (accepted : state.accept token = .go reached) (leads : Leads reached next final last) :
      Leads state cursor final last
  | complete {state final : State} {cursor next last : Cursor} {token : Token} {unit : RawUnit}
      (found : nextToken state.expected cursor = .token token next)
      (accepted : state.accept token = .complete unit) (leads : Leads .start next final last) :
      Leads state cursor final last

/-- Another word comes next. -/
def Proceeds (state : State) (cursor : Cursor) : Prop :=
  ∃ token next, nextToken state.expected cursor = .token token next

/-- A state behind the keyword of a match block and before its last brace, but not between a regular
expression in parentheses and its arrow. -/
def State.InBlock : State → Prop
  | .start | .named _ | .described _ | .opened _ => False
  | .patterned _ pattern => pattern.kind ≠ .parenRegex
  | _ => True

theorem Leads.suffix (leads : Leads state cursor final last) :
    last.rest <:+ cursor.rest := by
  induction leads with
  | here => exact List.suffix_rfl
  | go found _ _ ih | complete found _ _ ih =>
    exact ih.trans (nextToken_eq_token found).2.rest_suffix

theorem Leads.proceeds (leads : Leads state cursor final last) (proceeds : Proceeds final last) :
    Proceeds state cursor := by
  cases leads with
  | here => exact proceeds
  | go found _ _ => exact ⟨_, _, found⟩
  | complete found _ _ => exact ⟨_, _, found⟩

/-- The text from which the grammar goes on starts with layout, a comment or a word that is expected. -/
theorem Proceeds.mayStart (proceeds : Proceeds state cursor) (member : c ∈ cursor.rest.head?) :
    ∃ kind ∈ triedKinds state.expected, kind.mayStart c = true := by
  obtain ⟨token, next, found⟩ := proceeds
  rw [nextToken_eq] at found
  split at found
  · cases found
  · cases taken : firstWord? cursor.rest (triedKinds state.expected) with
    | none => rw [taken] at found; cases found
    | some triple =>
      obtain ⟨kind, word, rest⟩ := triple
      obtain ⟨tried, cut⟩ := firstWord?_eq_some taken
      obtain ⟨d, tail, _, shape, starts⟩ := Terminal.exists_start cut
      rw [shape] at member
      cases member
      exact ⟨kind, tried, starts⟩

/-- No word goes on where a variable is expected. -/
theorem apart_of_proceeds (proceeds : Proceeds (.matching header) cursor) :
    Apart cursor.rest := by
  intro c member
  obtain ⟨kind, tried, starts⟩ := proceeds.mayStart member
  have kinds : triedKinds (State.matching header).expected = [.subject, .blank, .comment] := by rfl
  rw [kinds] at tried
  simp only [List.mem_cons, List.not_mem_nil, or_false] at tried
  rcases tried with rfl | rfl | rfl
  · rw [show c = '$' by simpa [Terminal.mayStart] using starts]
    decide
  · exact isWordCode_of_layout c (.inl starts)
  · exact isWordCode_of_layout c (.inr (by simpa [Terminal.mayStart] using starts))

/-- **Behind the brace of a unit its keyword is read**, and no word goes on behind it. -/
theorem Leads.keyword_of_opened (leads : Leads (.opened header) cursor final last) (inBlock : final.InBlock)
    (proceeds : Proceeds final last) :
    ∃ opening tail, cursor.rest = opening ++ keywordThen tail ∧ last.rest <:+ tail ∧ Apart tail := by
  cases leads with
  | here => exact inBlock.elim
  | complete found accepted _ => cases accepted
  | @go _ _ _ _ next _ token found accepted leads =>
    obtain ⟨expected, text, ⟨skipped, split⟩, cut⟩ := nextToken_eq_token found
    cases accepted
    rw [List.mem_singleton.mp expected, Terminal.lexeme?] at cut
    refine ⟨skipped, next.rest, ?_, leads.suffix, apart_of_proceeds (leads.proceeds proceeds)⟩
    rw [← split, (fixed_eq_some cut).2]
    rfl

/-- **Behind an entry the keyword of the unit is read**, with something solid before it. -/
theorem Leads.keyword_of_described (leads : Leads state cursor final last) (inBlock : final.InBlock)
    (proceeds : Proceeds final last) (described : state = .described header) :
    ∃ opening tail, cursor.rest = opening ++ keywordThen tail ∧ (∃ c ∈ opening, isBlank c = false) ∧
      last.rest <:+ tail ∧ Apart tail := by
  induction leads generalizing header with
  | here =>
    rw [described] at inBlock
    exact inBlock.elim
  | complete found accepted _ _ =>
    rw [described, State.accept] at accepted
    split at accepted <;> cases accepted
  | @go state reached final cursor next last token found accepted leads ih =>
    obtain ⟨expected, text, ⟨skipped, split⟩, cut⟩ := nextToken_eq_token found
    obtain ⟨c, word, shape, isText, starts⟩ := Terminal.exists_start cut
    have solid := Terminal.solid_of_mayStart (State.isIgnored_of_expected expected) starts
    have later : ∃ opening tail, next.rest = opening ++ keywordThen tail ∧ last.rest <:+ tail ∧ Apart tail := by
      rw [described, State.accept] at accepted
      split at accepted
      · cases accepted
        exact leads.keyword_of_opened inBlock proceeds
      · cases accepted
        obtain ⟨opening, tail, isRest, _, suffix, apart⟩ := ih inBlock proceeds rfl
        exact ⟨opening, tail, isRest, suffix, apart⟩
    obtain ⟨opening, tail, isRest, suffix, apart⟩ := later
    refine ⟨skipped ++ (c :: (word ++ opening)), tail, ?_, ⟨c, by simp, solid⟩, suffix, apart⟩
    rw [← split, isText, isRest]
    simp

theorem State.accept_paren (expected : token.kind ∈ state.expected) (isParen : token.kind = .parenRegex) :
    ∃ unit, state.accept token = .go (.patterned unit token) := by
  cases state with
  | block unit => exact ⟨unit, rfl⟩
  | commanded unit pattern command => exact ⟨_, by simp [State.accept, afterArm, isParen]; rfl⟩
  | called unit pattern command targets => exact ⟨_, by simp [State.accept, afterArm, isParen]; rfl⟩
  | _ => simp [State.expected, isParen] at expected

theorem State.accept_entry (expected : token.kind ∈ state.expected) (isEntry : token.kind = .entry) :
    ∃ header, state.accept token = .go (.described header) := by
  cases state with
  | named name => exact ⟨_, rfl⟩
  | described header => exact ⟨_, by simp [State.accept, isEntry]; rfl⟩
  | _ => simp [State.expected, patternKinds, isEntry] at expected

/-- Where an arrow follows, blanks aside. -/
theorem arrowFollows_iff (text : List Char) : arrowFollows text = true ↔
    ∃ blanks rest, (∀ c ∈ blanks, isTabOrSpace c = true) ∧ text = blanks ++ '=' :: '>' :: rest := by
  constructor
  · intro follows
    obtain ⟨rest, found⟩ := Option.isSome_iff_exists.mp follows
    refine ⟨text.takeWhile isTabOrSpace, rest, fun c member => List.mem_takeWhile_imp member, ?_⟩
    rw [show '=' :: '>' :: rest = ['=', '>'] ++ rest from rfl, dropPrefix?_append found,
      List.takeWhile_append_dropWhile]
  · rintro ⟨blanks, rest, areBlank, rfl⟩
    rw [arrowFollows, dropWhile_append_stops areBlank (Stops.cons (by decide) _)]
    exact congrArg Option.isSome (dropPrefix?_self ['=', '>'] rest)

end PromptChain.Source
