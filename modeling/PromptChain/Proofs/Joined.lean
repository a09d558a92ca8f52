/-
**Sources below each other.**

A source can be put below another that is complete: reading both together gives the units of the first and
then those of the second, further down. Three facts make up the argument.

* No word of a complete source reaches beyond its end (`nextToken_join`). A metadata value goes on over the
  lines below it, and the keyword of a match block may stand on the line below its brace; but a unit that is
  complete has something solid behind each of its entries.
* The grammar is back at its start behind a complete source (`runGrammar_join`), and what it reads from there
  on is moved down by the lines before (`runGrammar_down`).
* Units are built from words that are moved down as they are from the words themselves, only further down
  (`buildUnits_down`).

Main statement: `parseUnits_join`.
-/

import PromptChain.Proofs.Exchanges

namespace PromptChain

namespace Source

open Text

/-! ### The next word -/

/-- A text and its place lead to the same end, wherever the next word leaves them. -/
theorem nextToken_place {allowed : List Terminal} {cursor next : Cursor} {token : Token}
    (found : nextToken allowed cursor = .token token next) :
    next.place.after next.rest = cursor.place.after cursor.rest := by
  have passes : ∀ {kind word rest} (cursor : Cursor),
      firstWord? cursor.rest (triedKinds allowed) = some (kind, word, rest) →
        (cursor.place.after word).after rest = cursor.place.after cursor.rest := by
    intro kind word rest cursor taken
    rw [← (Terminal.lexeme?_splits _ _ _ _ (firstWord?_eq_some taken).2).2]
    exact (List.foldl_append ..).symm
  fun_induction nextToken allowed cursor with
  | case1 => cases found
  | case2 => cases found
  | case3 cursor nonempty kind word rest taken after ignored ih => rw [ih found, passes cursor taken]
  | case4 cursor nonempty kind word rest taken after solid =>
    simp only [Scan.token.injEq] at found
    rw [← found.2, passes cursor taken]

section Words

variable (second : List Char)

theorem yields_below (rest : List Char) : Yields rest (rest ++ '\n' :: second) := by
  cases rest with
  | nil => exact yields_layout (.inl rfl) _ _
  | cons c rest =>
    intro test _ stops d member
    exact stops d member

/-- **The next word is the same with more lines below**, if the keyword of its unit stands behind an entry. -/
theorem nextToken_join {state : State} {cursor next : Cursor} {token : Token}
    (found : nextToken state.expected cursor = .token token next)
    (keyword : token.kind = .entry → ∃ opening tail, next.rest = opening ++ keywordThen tail ∧
      (∃ c ∈ opening, isBlank c = false) ∧ Apart tail) :
    nextToken state.expected ⟨cursor.rest ++ '\n' :: second, cursor.place⟩
      = .token token ⟨next.rest ++ '\n' :: second, next.place⟩ := by
  obtain ⟨expected, text, _, cut⟩ := nextToken_eq_token found
  have again : token.kind.lexeme? (token.text ++ (next.rest ++ '\n' :: second))
      = some (token.text, next.rest ++ '\n' :: second) := by
    refine Terminal.lexeme?_exchange (State.isIgnored_of_expected expected) cut (yields_below second _) ?_ ?_
    · intro isParen
      rw [isParen] at cut
      obtain ⟨blanks, rest, areBlank, isRest⟩ := (arrowFollows_iff _).mp (arrowFollows_of_lexeme? cut)
      exact (arrowFollows_iff _).mpr ⟨blanks, rest ++ '\n' :: second, areBlank, by rw [isRest]; simp⟩
    · intro isEntry
      obtain ⟨opening, tail, isRest, solid, apart⟩ := keyword isEntry
      refine ⟨opening, tail, tail ++ '\n' :: second, isRest, ?_, solid, apart, ?_⟩
      · rw [isRest, List.append_assoc]
        rfl
      · exact yields_below second tail _ isWordCode_of_layout apart
  obtain ⟨skipped, split, foundToo⟩ := nextToken_exchange found again
  rw [split]
  simpa using foundToo

/-- Layout up to a line moves on to that line. -/
theorem nextToken_gap (allowed : List Terminal) {gap : List Char} (layout : ∀ c ∈ gap, isLayout c = true)
    (text : List Char) (place : Place) :
    nextToken allowed ⟨gap ++ text, place⟩ = nextToken allowed ⟨text, place.after gap⟩ := by
  rw [nextToken_skip allowed (gap ++ text), nextToken_skip allowed text,
    List.dropWhile_append_of_pos layout, List.takeWhile_append_of_pos layout]
  rw [show place.after (gap ++ _) = _ from List.foldl_append ..]
  rfl

/-- **Behind the last word**, the next one is looked for below. -/
theorem nextToken_join_finish {state : State} {cursor : Cursor}
    (finished : nextToken state.expected cursor = .finish) :
    nextToken state.expected ⟨cursor.rest ++ '\n' :: second, cursor.place⟩
      = nextToken state.expected ⟨second, (cursor.place.after cursor.rest).pass '\n'⟩ := by
  have gap : ∀ (text : List Char) (place : Place), (∀ c ∈ text, isLayout c = true) →
      nextToken state.expected ⟨text ++ '\n' :: second, place⟩
        = nextToken state.expected ⟨second, (place.after text).pass '\n'⟩ := by
    intro text place layout
    rw [nextToken_gap state.expected layout]
    exact nextToken_gap state.expected (List.forall_mem_singleton.mpr rfl) second (place.after text)
  fun_induction nextToken state.expected cursor with
  | case1 cursor empty =>
    rw [List.isEmpty_iff.mp empty]
    exact gap [] cursor.place (by simp)
  | case2 => cases finished
  | case3 cursor nonempty kind word rest taken after ignored ih =>
    obtain ⟨tried, cut⟩ := firstWord?_eq_some taken
    have whole := (Terminal.lexeme?_splits _ _ _ _ cut).2
    by_cases lastBlank : kind = .blank ∧ rest = []
    · obtain ⟨rfl, rfl⟩ := lastBlank
      refine gap _ _ ?_
      obtain ⟨c, tail, _, shape, layout⟩ := Terminal.exists_start cut
      rw [shape, Terminal.lexeme?, if_pos (show isLayout c = true from layout)] at cut
      rw [shape]
      exact List.forall_mem_cons.mpr
        ⟨layout, List.dropWhile_eq_nil_iff.mp (Prod.mk.inj (Option.some.inj cut)).2⟩
    · have ends : (rest ++ '\n' :: second).head? = rest.head? ∨
          kind = .comment ∧ LineEnd (rest ++ '\n' :: second) := by
        cases rest with
        | cons c rest => exact .inl rfl
        | nil =>
          refine .inr ⟨?_, LineEnd.cons second⟩
          cases kind with
          | comment => rfl
          | blank => exact absurd ⟨rfl, rfl⟩ lastBlank
          | _ => cases ignored
      have again := lexeme?_ignored_exchange ignored cut ends
      obtain ⟨c, tail, shape, _⟩ := Terminal.exists_start cut
      rw [← whole, List.append_assoc, nextToken_eq, firstWord?_of_cut tried again, if_neg (by simp [shape])]
      simp only [ignored, if_true]
      rw [ih finished]
      simp [after, Place.after]
  | case4 => cases finished

/-! ### The grammar -/

/-- Only a brace completes a unit. -/
theorem State.kind_of_complete {state : State} {token : Token} {unit : RawUnit}
    (expected : token.kind ∈ state.expected) (accepted : state.accept token = .complete unit) :
    token.kind = .closeBrace := by
  cases state with
  | closing unit => exact List.mem_singleton.mp expected
  | described header | arrowed unit pattern | commanded unit pattern command
  | called unit pattern command targets =>
    simp only [State.accept] at accepted
    split at accepted <;> cases accepted
  | _ => cases accepted

theorem proceeds_of_runGrammar {state : State} {last : Place} {units result : List RawUnit} {cursor : Cursor}
    (read : runGrammar state last units cursor = .ok result) (notStart : state ≠ .start) :
    Proceeds state cursor := by
  rw [runGrammar_eq] at read
  cases found : nextToken state.expected cursor with
  | stuck stuck => rw [found] at read; cases read
  | finish =>
    rw [found, afterScan, if_neg notStart] at read
    cases read
  | token token next => exact ⟨token, next, found⟩

/-- A source that is complete is read on into the match block of each unit. -/
theorem exists_leads_of_runGrammar {state : State} {last : Place} {units result : List RawUnit}
    {cursor : Cursor} (read : runGrammar state last units cursor = .ok result)
    (unopened : (∃ header, state = .described header) ∨ ∃ header, state = .opened header) :
    ∃ final behind, Leads state cursor final behind ∧ final.InBlock ∧ Proceeds final behind := by
  fun_induction runGrammar state last units cursor with
  | case1 => cases read
  | case2 => rcases unopened with ⟨header, wrong⟩ | ⟨header, wrong⟩ <;> cases wrong
  | case3 => cases read
  | case4 state last units cursor token next found reached accepted ih =>
    rcases unopened with ⟨header, rfl⟩ | ⟨header, rfl⟩
    · have stillUnopened : (∃ header, reached = .described header) ∨ ∃ header, reached = .opened header := by
        rw [State.accept] at accepted
        split at accepted
        · cases accepted
          exact .inr ⟨_, rfl⟩
        · cases accepted
          exact .inl ⟨_, rfl⟩
      obtain ⟨final, behind, leads, inBlock, proceeds⟩ := ih read stillUnopened
      exact ⟨final, behind, .go found accepted leads, inBlock, proceeds⟩
    · cases accepted
      exact ⟨_, _, .go found rfl (.here _ _), trivial, proceeds_of_runGrammar read (by rintro ⟨⟩)⟩
  | case5 state last units cursor token next found unit accepted ih =>
    rcases unopened with ⟨header, rfl⟩ | ⟨header, rfl⟩
    · rw [State.accept] at accepted
      split at accepted <;> cases accepted
    · cases accepted

/-- **Behind a complete source the grammar is at its start again**, a line further down. -/
theorem runGrammar_join {state : State} {last : Place} {units result : List RawUnit} {cursor : Cursor}
    (read : runGrammar state last units cursor = .ok result) :
    ∃ final, runGrammar state last units ⟨cursor.rest ++ '\n' :: second, cursor.place⟩
      = runGrammar .start final result ⟨second, (cursor.place.after cursor.rest).pass '\n'⟩ := by
  rw [runGrammar_eq] at read ⊢
  cases found : nextToken state.expected cursor with
  | stuck stuck => rw [found] at read; cases read
  | finish =>
    rw [found, afterScan] at read
    split at read
    · rename_i isStart
      cases read
      subst isStart
      refine ⟨last, ?_⟩
      rw [nextToken_join_finish second found, ← runGrammar_eq]
    · cases read
  | token token next =>
    obtain ⟨expected, _⟩ := nextToken_eq_token found
    have shorter := nextToken_length found
    rw [found, afterScan] at read
    rw [← nextToken_place found]
    cases accepted : state.accept token with
    | go reached =>
      rw [accepted] at read
      have keyword : token.kind = .entry → ∃ opening tail, next.rest = opening ++ keywordThen tail ∧
          (∃ c ∈ opening, isBlank c = false) ∧ Apart tail := by
        intro isEntry
        obtain ⟨header, described⟩ := State.accept_entry expected isEntry
        rw [accepted] at described
        cases described
        obtain ⟨_, _, leads, inBlock, proceeds⟩ := exists_leads_of_runGrammar read (.inl ⟨header, rfl⟩)
        obtain ⟨opening, tail, isRest, solid, _, apart⟩ := leads.keyword_of_described inBlock proceeds rfl
        exact ⟨opening, tail, isRest, solid, apart⟩
      rw [nextToken_join second found keyword, afterScan, accepted]
      exact runGrammar_join read
    | complete unit =>
      rw [accepted] at read
      have notEntry : token.kind ≠ .entry := by
        rw [State.kind_of_complete expected accepted]
        decide
      rw [nextToken_join second found fun isEntry => absurd isEntry notEntry, afterScan, accepted]
      exact runGrammar_join read
termination_by cursor.rest.length
decreasing_by
  · exact shorter
  · exact shorter

end Words

/-! ### Places further down -/

/-- A place some lines further down. -/
def Place.down (count : Nat) (place : Place) : Place := ⟨place.line + count, place.column⟩

theorem Place.pass_down (count : Nat) (place : Place) (c : Char) :
    (place.down count).pass c = (place.pass c).down count := by
  unfold Place.pass
  split
  · simp [Place.down, Nat.add_right_comm]
  · rfl

theorem Place.after_down (count : Nat) (place : Place) (text : List Char) :
    (place.down count).after text = (place.after text).down count := by
  induction text generalizing place with
  | nil => rfl
  | cons c text ih =>
    change ((place.down count).pass c).after text = ((place.pass c).after text).down count
    rw [Place.pass_down, ih]

theorem Place.line_after (place : Place) (text : List Char) :
    (place.after text).line = place.line + text.count '\n' := by
  induction text generalizing place with
  | nil => rfl
  | cons c text ih =>
    change ((place.pass c).after text).line = place.line + (c :: text).count '\n'
    rw [ih, Place.pass]
    by_cases newline : c = '\n'
    · simp [newline, Nat.add_assoc, Nat.add_comm 1]
    · simp [newline]

/-- A line below a text starts as many lines further down as the text has. -/
theorem Place.pass_after_first (text : List Char) :
    (Place.first.after text).pass '\n' = Place.first.down (1 + text.count '\n') := by
  rw [Place.pass, if_pos rfl, Place.line_after, Place.down, Place.first, Nat.add_assoc,
    Nat.add_comm (text.count '\n')]

section Down

variable (count : Nat)

def Scan.down : Scan → Scan
  | .token word cursor => .token (word.moved (Place.down count)) ⟨cursor.rest, cursor.place.down count⟩
  | .finish => .finish
  | .stuck cursor => .stuck ⟨cursor.rest, cursor.place.down count⟩

theorem nextToken_down (allowed : List Terminal) (cursor : Cursor) :
    nextToken allowed ⟨cursor.rest, cursor.place.down count⟩ = (nextToken allowed cursor).down count := by
  fun_induction nextToken allowed cursor with
  | case1 cursor empty => rw [nextToken_eq, if_pos empty]; rfl
  | case2 cursor nonempty missing => rw [nextToken_eq, if_neg nonempty, missing]; rfl
  | case3 cursor nonempty kind word rest found after ignored ih =>
    rw [nextToken_eq, if_neg nonempty, found]
    simp only [ignored, if_true, Place.after_down]
    exact ih
  | case4 cursor nonempty kind word rest found after kept =>
    rw [nextToken_eq, if_neg nonempty, found]
    simp only [kept, Place.after_down]
    rfl

theorem malformedAt_down (expected : List Terminal) (cursor : Cursor) :
    malformedAt expected ⟨cursor.rest, cursor.place.down count⟩
      = ⟨(malformedAt expected cursor).problem, (malformedAt expected cursor).place.down count⟩ := by
  unfold malformedAt anyToken?
  cases firstWord? cursor.rest (Terminal.order.filter (· != .matchWord)) with
  | some found => rfl
  | none =>
    simp only [Option.map_none]
    cases cursor.rest <;> rfl

/-- What the grammar gives further down, behind other units. -/
def readDown (before : List RawUnit) : Except Malformed (List RawUnit) → Except Malformed (List RawUnit)
  | .ok units => .ok (before ++ units.map (RawUnit.moved (Place.down count)))
  | .error fault => .error ⟨fault.problem, fault.place.down count⟩

/-- **The grammar reads the same further down**, behind the units before. -/
theorem runGrammar_down (state : State) (last final : Place)
    (sameLast : state ≠ .start → final = last.down count) (before units : List RawUnit) (cursor : Cursor) :
    runGrammar (state.moved (Place.down count)) final
        (before ++ units.map (RawUnit.moved (Place.down count))) ⟨cursor.rest, cursor.place.down count⟩
      = readDown count before (runGrammar state last units cursor) := by
  rw [runGrammar_eq, runGrammar_eq, State.expected_moved, nextToken_down]
  cases found : nextToken state.expected cursor with
  | stuck stuck =>
    rw [Scan.down, afterScan, afterScan, State.expected_moved, malformedAt_down]
    rfl
  | finish =>
    rw [Scan.down, afterScan, afterScan, State.expected_moved]
    by_cases isStart : state = .start
    · rw [if_pos isStart, if_pos ((State.moved_eq_start _).mpr isStart)]
      rfl
    · rw [if_neg isStart, if_neg (isStart ∘ (State.moved_eq_start _).mp), sameLast isStart]
      rfl
  | token token next =>
    have shorter := nextToken_length found
    rw [Scan.down, afterScan, afterScan, ← State.accept_moved]
    cases state.accept token with
    | go reached => exact runGrammar_down reached _ _ (fun _ => rfl) before units next
    | complete unit =>
      have goesOn := runGrammar_down .start token.place _ (fun _ => rfl) before (units ++ [unit]) next
      rw [List.map_append, ← List.append_assoc] at goesOn
      exact goesOn
termination_by cursor.rest.length
decreasing_by
  · exact shorter
  · exact shorter

/-- **Two sources below each other**: the second is read behind the units of the first, further down. -/
theorem readUnits_join {first : List Char} {units : List RawUnit} (read : readUnits first = .ok units)
    (second : List Char) :
    readUnits (first ++ '\n' :: second) = readDown (1 + first.count '\n') units (readUnits second) := by
  obtain ⟨final, joined⟩ := runGrammar_join second read
  rw [readUnits, readUnits, joined, Place.pass_after_first]
  have below := runGrammar_down (1 + first.count '\n') .start Place.first final
    (fun notStart => absurd rfl notStart) units [] ⟨second, Place.first⟩
  rw [List.map_nil, List.append_nil] at below
  exact below

/-! ### Units further down -/

end Down

end Source

section Down

variable (count : Nat)

/-- An entry some lines further down. -/
def MetaEntry.down (entry : MetaEntry) : MetaEntry := { entry with line := entry.line + count }

/-- An arm some lines further down. -/
def Arm.down (arm : Arm) : Arm := { arm with line := arm.line + count }

/-- A unit some lines further down. -/
def PromptUnit.down (unit : PromptUnit) : PromptUnit :=
  { unit with
    entries := unit.entries.map (MetaEntry.down count)
    arms := unit.arms.map (Arm.down count)
    line := unit.line + count }

end Down

namespace Source

section Down

variable (count : Nat)

/-- A fault of a source some lines further down. -/
def ReadError.down : ReadError → ReadError
  | .fault (.source kind problem location) =>
    .fault (.source kind problem { location with line := location.line.map (· + (count : Int)) })
  | error => error

/-- What is built from words some lines further down. -/
def builtDown {α : Type} (move : α → α) : Except ReadError α → Except ReadError α
  | .ok value => .ok (move value)
  | .error error => .error (error.down count)

theorem down_faultAt (origin : Option String) (place : Place) (message : String) :
    faultAt origin (place.down count) message = (faultAt origin place message).down count := by
  simp [faultAt, ReadError.down, Place.location, Place.down]

variable (origin : Option String)

theorem buildPattern_down (token : Token) :
    buildPattern origin (token.moved (Place.down count)) = builtDown count id (buildPattern origin token) := by
  have regex : ∀ source flags delimiter, buildRegex origin (token.place.down count) source flags delimiter
      = builtDown count id (buildRegex origin token.place source flags delimiter) := by
    intro source flags delimiter
    unfold buildRegex
    split
    · rfl
    · rfl
    · rw [down_faultAt]
      rfl
    · rfl
  unfold buildPattern
  simp only [Token.moved]
  split
  · exact regex _ _ _
  · exact regex _ _ _
  · rfl

theorem buildArms_down (arms : List RawArm) :
    buildArms origin (arms.map (RawArm.moved (Place.down count)))
      = builtDown count (List.map (Arm.down count)) (buildArms origin arms) := by
  induction arms with
  | nil => rfl
  | cons arm arms ih =>
    rw [List.map_cons, buildArms, buildArms, ih, RawArm.moved, buildPattern_down]
    cases buildPattern origin arm.pattern with
    | error error => rfl
    | ok pattern =>
      cases buildArms origin arms with
      | error error => rfl
      | ok rest =>
        simp only [builtDown, buildAction_moved]
        rfl

theorem buildEntries_down (unit : String) (before : List MetaEntry) (tokens : List Token) :
    buildEntries origin unit (before.map (MetaEntry.down count)) (tokens.map (Token.moved (Place.down count)))
      = builtDown count (List.map (MetaEntry.down count)) (buildEntries origin unit before tokens) := by
  induction tokens generalizing before with
  | nil => rfl
  | cons token tokens ih =>
    have entry : entryOf (token.moved (Place.down count)) = (entryOf token).down count := rfl
    have known : (before.map (MetaEntry.down count)).any (fun other => other.key == (entryOf token).key)
        = before.any fun other => other.key == (entryOf token).key := by
      rw [List.any_map]
      rfl
    have refused : ∀ problem : BuildProblem,
        (.error (faultAt origin (token.moved (Place.down count)).place problem.message)
          : Except ReadError (List MetaEntry))
        = builtDown count (List.map (MetaEntry.down count))
          (.error (faultAt origin token.place problem.message)) := by
      intro problem
      rw [builtDown, ← down_faultAt]
      rfl
    rw [List.map_cons, buildEntries, buildEntries, entry]
    simp only [refused]
    change (if (!metadataKeys.contains (entryOf token).key) = true then _ else
      if ((before.map (MetaEntry.down count)).any fun other =>
          other.key == (entryOf token).key) = true then _ else
      if (Template.parse? (entryOf token).text).isNone = true then _ else _) = _
    rw [known]
    split
    · rfl
    · split
      · rfl
      · split
        · rfl
        · have more := ih (before ++ [entryOf token])
          rw [List.map_append] at more
          exact more

theorem buildUnit_down (unit : RawUnit) :
    buildUnit origin (unit.moved (Place.down count))
      = builtDown count (PromptUnit.down count) (buildUnit origin unit) := by
  have entries := buildEntries_down count origin unit.header.name.string [] unit.header.entries
  rw [List.map_nil] at entries
  rw [buildUnit, buildUnit, RawUnit.moved, buildArms_down]
  cases buildArms origin unit.arms with
  | error error => rfl
  | ok arms =>
    have sameName : (unit.header.name.moved (Place.down count)).string = unit.header.name.string := rfl
    simp only [builtDown, Header.moved, sameName]
    rw [entries]
    cases buildEntries origin unit.header.name.string [] unit.header.entries <;> rfl

theorem buildUnits_down (units : List RawUnit) :
    buildUnits origin (units.map (RawUnit.moved (Place.down count)))
      = builtDown count (List.map (PromptUnit.down count)) (buildUnits origin units) := by
  induction units with
  | nil => rfl
  | cons unit units ih =>
    rw [List.map_cons, buildUnits, buildUnits, ih, buildUnit_down]
    cases buildUnit origin unit with
    | error error => rfl
    | ok first => cases buildUnits origin units <;> rfl

end Down

theorem buildUnits_append {origin : Option String} {first : List RawUnit} {units : List PromptUnit}
    (built : buildUnits origin first = .ok units) (second : List RawUnit) :
    buildUnits origin (first ++ second) = (buildUnits origin second).map (units ++ ·) := by
  induction first generalizing units with
  | nil =>
    cases built
    cases same : buildUnits origin second <;> simp [same, Except.map]
  | cons unit first ih =>
    rw [buildUnits] at built
    rw [List.cons_append, buildUnits]
    cases one : buildUnit origin unit with
    | error error => rw [one] at built; cases built
    | ok start =>
      rw [one] at built
      cases more : buildUnits origin first with
      | error error => rw [more] at built; cases built
      | ok rest =>
        rw [more] at built
        cases built
        simp only [ih more]
        cases buildUnits origin second <;> rfl

theorem parseUnits_below {origin : Option String} {first second : String} {units : List PromptUnit}
    (noReturn : '\r' ∉ first.toList) (noReturnToo : '\r' ∉ second.toList)
    (parsed : parseUnits origin first = .ok units) :
    parseUnits origin (first ++ "\n" ++ second)
      = (builtDown (1 + first.toList.count '\n') (List.map (PromptUnit.down (1 + first.toList.count '\n')))
        (parseUnits origin second)).map (units ++ ·) := by
  have text : (first ++ "\n" ++ second).toList = first.toList ++ '\n' :: second.toList := by simp
  have noReturnBoth : '\r' ∉ first.toList ++ '\n' :: second.toList := by simp [noReturn, noReturnToo]
  unfold parseUnits at parsed ⊢
  rw [text, normalizeNewlines_of_notMem noReturnBoth, normalizeNewlines_of_notMem noReturnToo]
  rw [normalizeNewlines_of_notMem noReturn] at parsed
  cases read : readUnits first.toList with
  | error malformed => rw [read] at parsed; cases parsed
  | ok words =>
    rw [read] at parsed
    rw [readUnits_join read]
    cases readUnits second.toList with
    | error malformed => simp only [readDown, down_faultAt, builtDown, Except.map]
    | ok more =>
      simp only [readDown]
      rw [buildUnits_append parsed, buildUnits_down]

/-- **Sources can be put below each other.** Below a source that is complete, a source is read as by itself,
and its units follow with all their lines further down; and if it is malformed, the whole is, with the same
message at the same place further down. -/
theorem parseUnits_join (origin : Option String) (first second : String) (units : List PromptUnit)
    (noReturn : '\r' ∉ first.toList) (noReturnToo : '\r' ∉ second.toList)
    (parsed : parseUnits origin first = .ok units) :
    (∀ more, parseUnits origin second = .ok more →
      parseUnits origin (first ++ "\n" ++ second)
        = .ok (units ++ more.map (PromptUnit.down (1 + first.toList.count '\n')))) ∧
    (∀ message line column source,
      parseUnits origin second
        = .error (.fault (.source .malformed message ⟨some line, some column, source⟩)) →
      parseUnits origin (first ++ "\n" ++ second)
        = .error (.fault (.source .malformed message
          ⟨some (line + (1 + first.toList.count '\n')), some column, source⟩))) ∧
    ∀ delimiter failure, parseUnits origin second = .error (.beyondLimit delimiter failure) →
      parseUnits origin (first ++ "\n" ++ second) = .error (.beyondLimit delimiter failure) := by
  rw [parseUnits_below noReturn noReturnToo parsed]
  refine ⟨fun more read => ?_, fun message line column source read => ?_, fun delimiter failure read => ?_⟩
  · rw [read]
    rfl
  · rw [read]
    rfl
  · rw [read]
    rfl

/-- A complete unit on three lines. -/
def threeLines : String := "a\ndirection: i\n\x7bmatch $AI\x7b\"\"=>`l`\x7d\x7d"

/-- A name without its metadata. -/
theorem parseUnits_loneName : parseUnits none "b" = .error (.fault (.source .malformed
    "Unexpected end of input (unclosed match block?)" ⟨some 1, some 1, none⟩)) := by
  with_unfolding_all rfl

/-- Below it, the unit itself starts on the fourth line, and there a name alone lacks what should follow. -/
theorem threeLines_join : ∃ units, parseUnits none threeLines = .ok units ∧ units.map PromptUnit.line = [1] ∧
    parseUnits none (threeLines ++ "\n" ++ threeLines) = .ok (units ++ units.map (PromptUnit.down 3)) ∧
    parseUnits none (threeLines ++ "\n" ++ "b") = .error (.fault (.source .malformed
      "Unexpected end of input (unclosed match block?)" ⟨some 4, some 1, none⟩)) := by
  have evaluated : (parseUnits none threeLines).toOption.map (List.map PromptUnit.line) = some [1] := by
    decide +kernel
  have noReturn : '\r' ∉ threeLines.toList := by decide
  cases read : parseUnits none threeLines with
  | error problem => rw [read] at evaluated; cases evaluated
  | ok units =>
    rw [read] at evaluated
    refine ⟨units, rfl, Option.some.inj evaluated, ?_, ?_⟩
    · exact (parseUnits_join none threeLines threeLines units noReturn noReturn read).1 units read
    · exact (parseUnits_join none threeLines "b" units noReturn (by decide) read).2.1 _ 1 1 none
        parseUnits_loneName

end Source

end PromptChain
