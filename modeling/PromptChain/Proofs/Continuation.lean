/-
**The lines that continue a metadata value, when they are written as a block.**

A block is the lines of a text, each on a line of its own behind two blanks. The reader takes them up
to the first one that looks like the start of something else (`closesBlock`): a known key with its
colon, or the opening of the match block, whose keyword may stand some lines below its brace.

* `closesBlock_blockText`: how a block is written does not change which of its lines close it;
* `continuation_blockText`: the reader takes the lines of a block before the first that closes it, and
  all of them when there is none.
-/

import Mathlib.Data.List.Infix
import PromptChain.Proofs.Text
import PromptChain.Source.Terminal

namespace PromptChain.Source

open Text

variable {rest line : List Char}

/-! ### What closes a block -/

/-- Whether a text looks like the next part of a unit: its match block, or another entry. -/
def closesBlock (text : List Char) : Bool := opensMatch text || startsKnownKey text

/-- No line of a text closes the block in which it is written. -/
def StaysOpen (parts : List (List Char)) : Prop :=
  ∀ part ∈ parts.tails, closesBlock ((unlines part).dropWhile isTabOrSpace) = false

instance (parts : List (List Char)) : Decidable (StaysOpen parts) :=
  inferInstanceAs (Decidable (∀ part ∈ parts.tails, _))

/-- The end of a line: a newline or the end of the text. -/
abbrev LineEnd (text : List Char) : Prop := Stops (· != '\n') text

theorem LineEnd.cons (text : List Char) : LineEnd ('\n' :: text) := Stops.cons rfl text

theorem LineEnd.stops {test : Char → Bool} {text : List Char} (ends : LineEnd text)
    (fails : test '\n' = false) : Stops test text := by
  intro c member
  have newline := ends c member
  rw [bne_eq_false_iff_eq] at newline
  rw [newline]
  exact fails

/-- A word that starts a text starts the part before a character that is not in the word. -/
theorem dropPrefix?_append_apart {start text : List Char} (apart : ∀ c ∈ rest.head?, c ∉ start) :
    dropPrefix? (text ++ rest) start = (dropPrefix? text start).map (· ++ rest) := by
  induction text generalizing start with
  | nil =>
    cases start with
    | nil => simp [dropPrefix?]
    | cons p start =>
      cases rest with
      | nil => rfl
      | cons c rest =>
        have different : c ≠ p := fun same => apart c rfl (same ▸ List.mem_cons_self)
        simp [dropPrefix?, different]
  | cons c text ih =>
    cases start with
    | nil => simp [dropPrefix?]
    | cons p start =>
      by_cases same : c = p
      · simpa [dropPrefix?, same] using
          ih fun d member inside => apart d member (List.mem_cons_of_mem _ inside)
      · simp [dropPrefix?, same]

/-- A word without newlines that starts a text starts its first line. -/
theorem dropPrefix?_append_lineEnd {start : List Char} (flat : '\n' ∉ start) (ends : LineEnd rest) :
    dropPrefix? (line ++ rest) start = (dropPrefix? line start).map (· ++ rest) := by
  refine dropPrefix?_append_apart fun c member => ?_
  have newline := ends c member
  rw [bne_eq_false_iff_eq] at newline
  rw [newline]
  exact flat

/-- Whether a colon follows, tabs and blanks aside, is settled on the line. -/
theorem head?_dropWhile_append_lineEnd (ends : LineEnd rest) :
    (((line ++ rest).dropWhile isTabOrSpace).head? == some ':')
      = ((line.dropWhile isTabOrSpace).head? == some ':') := by
  by_cases inside : ∃ c ∈ line, isTabOrSpace c = false
  · rw [dropWhile_append_of_exists rest inside]
    cases left : line.dropWhile isTabOrSpace with
    | nil =>
      obtain ⟨c, member, fails⟩ := inside
      have passes := List.dropWhile_eq_nil_iff.mp left c member
      rw [fails] at passes
      cases passes
    | cons c more => rfl
  · have passes : ∀ c ∈ line, isTabOrSpace c = true := by
      intro c member
      by_contra fails
      exact inside ⟨c, member, by simpa using fails⟩
    rw [dropWhile_append_stops passes (ends.stops rfl), List.dropWhile_eq_nil_iff.mpr passes]
    cases rest with
    | nil => rfl
    | cons c rest =>
      have newline := ends c rfl
      rw [bne_eq_false_iff_eq] at newline
      rw [newline]
      rfl

/-- A known key is found on the line or not at all. -/
theorem startsKnownKey_append (ends : LineEnd rest) :
    startsKnownKey (line ++ rest) = startsKnownKey line := by
  have flat : ∀ key ∈ metadataKeys, '\n' ∉ key.toList := by decide
  unfold startsKnownKey
  rw [Bool.eq_iff_iff, List.any_eq_true, List.any_eq_true]
  refine exists_congr fun key => and_congr_right fun known => ?_
  rw [dropPrefix?_append_lineEnd (flat key known) ends]
  cases dropPrefix? line key.toList with
  | none => rfl
  | some after =>
    rw [Option.map_some]
    exact iff_of_eq (congrArg (· = true) (head?_dropWhile_append_lineEnd ends))

/-! ### The keyword behind a brace -/

/-- Whether a text starts with the keyword of a match block. -/
def startsMatch (text : List Char) : Bool :=
  match dropPrefix? text "match".toList with
  | some after => !(after.head?.any fun c => isWordCode c.toNat)
  | none => false

theorem opensMatch_brace (text : List Char) :
    opensMatch ('{' :: text) = startsMatch (text.dropWhile isBlank) := rfl

theorem opensMatch_of_ne {c : Char} (other : c ≠ '{') (text : List Char) :
    opensMatch (c :: text) = false := by
  unfold opensMatch
  split
  · rename_i same
    cases same
    exact absurd rfl other
  · rfl

/-- The keyword is found on the line or not at all. -/
theorem startsMatch_append (ends : LineEnd rest) :
    startsMatch (line ++ rest) = startsMatch line := by
  unfold startsMatch
  rw [dropPrefix?_append_lineEnd (by decide) ends]
  cases dropPrefix? line "match".toList with
  | none => rfl
  | some after =>
    cases after with
    | cons c after => rfl
    | nil =>
      cases rest with
      | nil => rfl
      | cons c rest =>
        have newline := ends c rfl
        rw [bne_eq_false_iff_eq] at newline
        rw [newline]
        rfl

/-! ### Two ways to write lines -/

/-- Lines below another, as they are. -/
def below (parts : List (List Char)) : List Char := parts.flatMap fun line => '\n' :: line

/-- Lines below another, as they are written in a block. -/
def blockText (parts : List (List Char)) : List Char :=
  parts.flatMap fun line => '\n' :: blockLine line

@[simp]
theorem blockText_nil : blockText [] = [] := rfl

@[simp]
theorem blockText_cons (line : List Char) (parts : List (List Char)) :
    blockText (line :: parts) = '\n' :: (blockLine line ++ blockText parts) := by
  simp [blockText]

@[simp]
theorem below_cons (line : List Char) (parts : List (List Char)) :
    below (line :: parts) = '\n' :: (line ++ below parts) := by
  simp [below]

theorem unlines_cons (line : List Char) (parts : List (List Char)) :
    unlines (line :: parts) = line ++ below parts := by
  induction parts generalizing line with
  | nil => simp [below]
  | cons next parts ih => rw [unlines_cons_cons, ih, below_cons]

theorem newline_cons_unlines {parts : List (List Char)} (some_line : parts ≠ []) :
    '\n' :: unlines parts = below parts := by
  cases parts with
  | nil => exact absurd rfl some_line
  | cons line parts => rw [unlines_cons, below_cons]

theorem blockText_eq_below (parts : List (List Char)) : blockText parts = below (parts.map blockLine) := by
  rw [below, List.flatMap_map, blockText]

theorem lineEnd_below (parts : List (List Char)) : LineEnd (below parts) := by
  cases parts with
  | nil => exact Stops.nil _
  | cons line parts =>
    rw [below_cons]
    exact LineEnd.cons _

theorem exists_blockText_append (parts : List (List Char)) (rest : List Char) :
    ∃ tail, blockText parts ++ '\n' :: rest = '\n' :: tail := by
  cases parts with
  | nil => exact ⟨rest, rfl⟩
  | cons line parts =>
    rw [blockText_cons]
    exact ⟨_, rfl⟩

theorem lineEnd_blockText (parts : List (List Char)) (rest : List Char) :
    LineEnd (blockText parts ++ '\n' :: rest) := by
  obtain ⟨tail, lineAfter⟩ := exists_blockText_append parts rest
  rw [lineAfter]
  exact LineEnd.cons tail

theorem blockLine_of_blank (blank : isBlankText line = true) :
    blockLine line = [] := if_pos blank

theorem blockLine_of_solid (solid : isBlankText line = false) :
    blockLine line = ' ' :: ' ' :: line := if_neg (by simp [solid])

theorem exists_solid (solid : isBlankText line = false) :
    ∃ c ∈ line, isBlank c = false := by
  simpa [isBlankText] using solid

/-- What may stand behind a block: neither a blank nor the keyword. -/
structure Opening (rest : List Char) : Prop where
  solid : Stops isBlank rest
  noKeyword : startsMatch rest = false

/-- Behind blank lines, the keyword is found in a block as in the text itself. -/
theorem startsMatch_blockText (parts : List (List Char)) (opening : Opening rest) :
    startsMatch ((blockText parts ++ '\n' :: rest).dropWhile isBlank)
      = startsMatch ((below parts).dropWhile isBlank) := by
  have newline : isBlank '\n' = true := by decide
  have space : isBlank ' ' = true := by decide
  induction parts with
  | nil =>
    have skipped : ('\n' :: rest).dropWhile isBlank = rest := by
      rw [List.dropWhile_cons_of_pos newline, dropWhile_of_stops opening.solid]
    rw [blockText_nil, List.nil_append, skipped, opening.noKeyword]
    rfl
  | cons line parts ih =>
    rw [blockText_cons, below_cons, List.cons_append, List.dropWhile_cons_of_pos newline,
      List.dropWhile_cons_of_pos newline]
    cases solid : isBlankText line with
    | true =>
      rw [blockLine_of_blank solid, List.nil_append, ih,
        List.dropWhile_append_of_pos (by simpa [isBlankText] using solid)]
    | false =>
      rw [blockLine_of_solid solid, List.cons_append, List.cons_append, List.cons_append,
        List.cons_append, List.dropWhile_cons_of_pos space, List.dropWhile_cons_of_pos space,
        List.append_assoc, dropWhile_append_of_exists _ (exists_solid solid),
        dropWhile_append_of_exists _ (exists_solid solid),
        startsMatch_append (lineEnd_blockText parts rest), startsMatch_append (lineEnd_below parts)]

/-- A match block opens in a block as in the text itself. -/
theorem opensMatch_blockText (line : List Char) (parts : List (List Char)) (opening : Opening rest) :
    opensMatch (line ++ (blockText parts ++ '\n' :: rest)) = opensMatch (line ++ below parts) := by
  cases line with
  | nil =>
    have head : ∀ text, LineEnd text → opensMatch text = false := by
      intro text ends
      cases text with
      | nil => rfl
      | cons c text =>
        have newline := ends c rfl
        rw [bne_eq_false_iff_eq] at newline
        rw [newline]
        rfl
    rw [List.nil_append, List.nil_append, head _ (lineEnd_blockText parts rest),
      head _ (lineEnd_below parts)]
  | cons c line =>
    by_cases brace : c = '{'
    · rw [brace, List.cons_append, List.cons_append, opensMatch_brace, opensMatch_brace]
      by_cases inside : ∃ d ∈ line, isBlank d = false
      · rw [dropWhile_append_of_exists _ inside, dropWhile_append_of_exists _ inside,
          startsMatch_append (lineEnd_blockText parts rest),
          startsMatch_append (lineEnd_below parts)]
      · have blank : ∀ d ∈ line, isBlank d = true := by
          intro d member
          by_contra solid
          exact inside ⟨d, member, by simpa using solid⟩
        rw [List.dropWhile_append_of_pos blank, List.dropWhile_append_of_pos blank,
          startsMatch_blockText parts opening]
    · rw [List.cons_append, List.cons_append, opensMatch_of_ne brace, opensMatch_of_ne brace]

/-- **A line closes its block exactly when it would close the text.** -/
theorem closesBlock_blockText (line : List Char) (parts : List (List Char)) (opening : Opening rest) :
    closesBlock (line ++ (blockText parts ++ '\n' :: rest)) = closesBlock (line ++ below parts) := by
  unfold closesBlock
  rw [opensMatch_blockText line parts opening, startsKnownKey_append (lineEnd_blockText parts rest),
    startsKnownKey_append (lineEnd_below parts)]

/-! ### Reading a block -/

/-- An empty line continues the value. -/
theorem continuation_emptyLine (rest : List Char) :
    continuation ('\n' :: '\n' :: rest)
      = ('\n' :: (continuation ('\n' :: rest)).1, (continuation ('\n' :: rest)).2) := by
  rw [continuation]
  have stay : ('\n' :: rest).dropWhile isTabOrSpace = '\n' :: rest :=
    List.dropWhile_cons_of_neg (by decide)
  have none_taken : ('\n' :: rest).takeWhile isTabOrSpace = [] :=
    List.takeWhile_cons_of_neg (by decide)
  simp only [stay, none_taken, List.head?_cons, if_true, List.cons_append, List.nil_append]

/-- A line that is not indented ends the value. -/
theorem continuation_flush (flush : Stops isTabOrSpace rest) (solid : Stops (· == '\n') rest) :
    continuation ('\n' :: rest) = ([], '\n' :: rest) := by
  rw [continuation]
  have stay := dropWhile_of_stops flush
  have none_taken := takeWhile_of_stops flush
  have other : rest.head? ≠ some '\n' := by
    intro newline
    have fails := solid '\n' newline
    simp at fails
  simp only [stay, none_taken, other, if_false, List.isEmpty_nil, Bool.true_or, if_true]

/-- An indented line with something on it: it ends the value if it closes the block, and else
continues it. -/
theorem continuation_solidLine {blanks : List Char} (indented : blanks ≠ [])
    (blank : ∀ c ∈ blanks, isTabOrSpace c = true) (solid : line ≠ []) (start : Stops isTabOrSpace line)
    (flat : '\n' ∉ line) (ends : LineEnd rest) :
    continuation ('\n' :: (blanks ++ (line ++ rest))) =
      if closesBlock (line ++ rest) then ([], '\n' :: (blanks ++ (line ++ rest)))
      else ('\n' :: (blanks ++ (line ++ (continuation rest).1)), (continuation rest).2) := by
  have startRest : Stops isTabOrSpace (line ++ rest) := by
    intro c member
    rw [List.head?_append_of_ne_nil _ solid] at member
    exact start c member
  have other : (line ++ rest).head? ≠ some '\n' := by
    rw [List.head?_append_of_ne_nil _ solid]
    exact fun newline => flat (List.mem_of_mem_head? newline)
  have onLine : ∀ c ∈ line, (c != '\n') = true := by
    intro c member
    rw [bne_iff_ne]
    exact fun newline => flat (newline ▸ member)
  rw [continuation]
  simp only [takeWhile_append_stops blank startRest, dropWhile_append_stops blank startRest, other,
    if_false, takeWhile_append_stops onLine ends, dropWhile_append_stops onLine ends,
    List.isEmpty_eq_false_iff.mpr indented, Bool.false_or, ← closesBlock.eq_1]
  split
  · rfl
  · simp only [List.cons_append, List.append_assoc]

theorem stops_newline_of_solid (solid : Stops isBlank rest) :
    Stops (· == '\n') rest := by
  intro c member
  rw [beq_eq_false_iff_ne]
  rintro rfl
  have fails := solid _ member
  revert fails
  decide

theorem isTabOrSpace_isBlank {c : Char} (indent : isTabOrSpace c = true) : isBlank c = true := by
  unfold isTabOrSpace at indent
  rcases Bool.or_eq_true_iff.mp indent with space | tab
  · rw [beq_iff_eq.mp space]
    decide
  · rw [beq_iff_eq.mp tab]
    decide

theorem stops_indent_of_solid (solid : Stops isBlank rest) :
    Stops isTabOrSpace rest := by
  intro c member
  have fails := solid c member
  by_contra indent
  rw [isTabOrSpace_isBlank (by simpa using indent)] at fails
  cases fails

/-- A line of a block with something on it, cut behind its indentation. -/
theorem blockLine_split (solid : isBlankText line = false) :
    blockLine line = (' ' :: ' ' :: line.takeWhile isTabOrSpace) ++ line.dropWhile isTabOrSpace := by
  rw [blockLine_of_solid solid, List.cons_append, List.cons_append,
    List.takeWhile_append_dropWhile]

theorem dropWhile_indent_ne_nil (solid : isBlankText line = false) :
    line.dropWhile isTabOrSpace ≠ [] := by
  intro none_left
  obtain ⟨c, member, fails⟩ := exists_solid solid
  have indent := List.dropWhile_eq_nil_iff.mp none_left c member
  rw [isTabOrSpace_isBlank indent] at fails
  cases fails

theorem exists_not_indent (solid : isBlankText line = false) :
    ∃ c ∈ line, isTabOrSpace c = false := by
  obtain ⟨c, member, fails⟩ := exists_solid solid
  refine ⟨c, member, ?_⟩
  by_contra indent
  rw [isTabOrSpace_isBlank (by simpa using indent)] at fails
  cases fails

/-- A blank line closes no block. -/
theorem closesBlock_of_blank (blank : isBlankText line = true) (parts : List (List Char)) :
    closesBlock ((unlines (line :: parts)).dropWhile isTabOrSpace) = false := by
  rw [unlines_cons]
  have closedBy : ∀ text : List Char, (∀ c ∈ text.head?, isBlank c = true) →
      closesBlock text = false := by
    intro text blankHead
    cases text with
    | nil => rfl
    | cons c text =>
      have blankChar := blankHead c rfl
      have notBrace : c ≠ '{' := by
        rintro rfl
        revert blankChar
        decide
      have notKey : startsKnownKey (c :: text) = false := by
        have letters : ∀ key ∈ metadataKeys, key.toList ≠ [] ∧ key.toList.all (!isBlank ·) := by
          decide
        unfold startsKnownKey
        rw [List.any_eq_false]
        intro key known
        obtain ⟨spelled, solid⟩ := letters key known
        cases word : key.toList with
        | nil => exact absurd word spelled
        | cons d more =>
          have different : c ≠ d := by
            rintro rfl
            rw [word, List.all_cons, blankChar] at solid
            simp at solid
          simp [dropPrefix?, different]
      rw [closesBlock, opensMatch_of_ne notBrace, notKey]
      rfl
  apply closedBy
  intro c member
  by_cases inside : ∃ d ∈ line, isTabOrSpace d = false
  · rw [dropWhile_append_of_exists _ inside] at member
    have inLine : c ∈ line := by
      have left : line.dropWhile isTabOrSpace ≠ [] := by
        intro none_left
        obtain ⟨d, found, fails⟩ := inside
        rw [List.dropWhile_eq_nil_iff.mp none_left d found] at fails
        cases fails
      rw [List.head?_append_of_ne_nil _ left] at member
      exact (List.dropWhile_suffix _).subset (List.mem_of_mem_head? member)
    exact List.all_eq_true.mp blank c inLine
  · have passes : ∀ d ∈ line, isTabOrSpace d = true := by
      intro d found
      by_contra fails
      exact inside ⟨d, found, by simpa using fails⟩
    rw [dropWhile_append_stops passes ((lineEnd_below parts).stops rfl)] at member
    have newline := lineEnd_below parts c member
    rw [bne_eq_false_iff_eq] at newline
    rw [newline]
    decide

/-- **Reading a block.** The lines before the first that closes the block are taken; when no line
closes it, all are. -/
theorem continuation_blockText (parts : List (List Char)) (whole : ∀ line ∈ parts, '\n' ∉ line)
    (opening : Opening rest) :
    ∃ taken left, parts = taken ++ left ∧
      continuation (blockText parts ++ '\n' :: rest)
        = (blockText taken, blockText left ++ '\n' :: rest) ∧
      (left = [] ↔ StaysOpen parts) ∧ ∀ line ∈ left.head?, isBlankText line = false := by
  induction parts with
  | nil =>
    refine ⟨[], [], rfl, ?_, ?_, by simp⟩
    · exact continuation_flush (stops_indent_of_solid opening.solid)
        (stops_newline_of_solid opening.solid)
    · simp [StaysOpen]
      rfl
  | cons line parts ih =>
    obtain ⟨taken, left, split, read, open_iff, solidHead⟩ :=
      ih (List.forall_mem_cons.mp whole).2
    have openCons : StaysOpen (line :: parts) ↔
        closesBlock ((unlines (line :: parts)).dropWhile isTabOrSpace) = false ∧
          StaysOpen parts := by
      simp [StaysOpen]
    cases solid : isBlankText line with
    | true =>
      refine ⟨line :: taken, left, by rw [split]; rfl, ?_, ?_, solidHead⟩
      · obtain ⟨tail, lineAfter⟩ := exists_blockText_append parts rest
        rw [blockText_cons, blockLine_of_blank solid, List.nil_append, List.cons_append, lineAfter,
          continuation_emptyLine, ← lineAfter, read, blockText_cons, blockLine_of_blank solid]
        rfl
      · rw [open_iff, openCons, closesBlock_of_blank solid]
        simp
    | false =>
      have blank : ∀ c ∈ ' ' :: ' ' :: line.takeWhile isTabOrSpace, isTabOrSpace c = true := by
        intro c member
        rcases List.mem_cons.mp member with rfl | member
        · rfl
        rcases List.mem_cons.mp member with rfl | member
        · rfl
        · exact List.mem_takeWhile_imp member
      have stepped := continuation_solidLine (List.cons_ne_nil _ _) blank
        (dropWhile_indent_ne_nil solid) (stops_dropWhile _ _)
        (fun member => whole line List.mem_cons_self ((List.dropWhile_suffix _).subset member))
        (lineEnd_blockText parts rest)
      rw [closesBlock_blockText _ _ opening,
        ← dropWhile_append_of_exists (below parts) (exists_not_indent solid), ← unlines_cons,
        ← List.append_assoc _ (line.dropWhile isTabOrSpace), ← blockLine_split solid] at stepped
      have text : blockText (line :: parts) ++ '\n' :: rest
          = '\n' :: (blockLine line ++ (blockText parts ++ '\n' :: rest)) := by
        rw [blockText_cons, List.cons_append, List.append_assoc]
      cases closes : closesBlock ((unlines (line :: parts)).dropWhile isTabOrSpace) with
      | true =>
        rw [closes, if_pos rfl] at stepped
        refine ⟨[], line :: parts, rfl, ?_, ?_, ?_⟩
        · rw [text, stepped]
          rfl
        · rw [openCons, closes]
          simp
        · intro other member
          cases member
          exact solid
      | false =>
        rw [closes, if_neg (by simp), read] at stepped
        refine ⟨line :: taken, left, by rw [split]; rfl, ?_, ?_, solidHead⟩
        · rw [text, stepped, blockText_cons, blockLine_split solid, List.append_assoc]
        · rw [open_iff, openCons, closes]
          simp

end PromptChain.Source
