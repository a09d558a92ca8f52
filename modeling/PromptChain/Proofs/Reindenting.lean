/-
**Blocks that are indented differently.**

The lines of a block are read without the indentation that they have in common, so that it makes no
difference how far the block is indented as a whole. Beyond it the lines keep their indentation
(`indent_eq_append`), and of their places only those of empty lines at either end are lost.

Main statement: `reindented_block_reads_same`.
-/

import PromptChain.Proofs.Words

namespace PromptChain.Source

open Text

variable {key : String} {indent line margin : List Char} {parts : List (List Char)}

/-! ### The indentation of the whole block -/

theorem clearIndentOnly_append (blank : ∀ c ∈ indent, isIndent c = true) (line : List Char) :
    clearIndentOnly (indent ++ line) = indented indent (clearIndentOnly line) := by
  unfold clearIndentOnly
  rw [List.all_append, List.all_eq_true.mpr blank, Bool.true_and]
  cases line with
  | nil => rfl
  | cons c line => split <;> rfl

/-- **Indenting all lines changes nothing** once they are dedented. -/
theorem dedentLines_map_append (blank : ∀ c ∈ indent, isIndent c = true) (parts : List (List Char)) :
    dedentLines (parts.map (indent ++ ·)) = dedentLines parts :=
  (dedentLines_map blank (clearIndentOnly_append blank) parts).trans (dedentLines_eq parts).symm

/-! ### The indentation of each line -/

theorem commonStart_prefix (first second : List Char) :
    commonStart first second <+: first ∧ commonStart first second <+: second := by
  fun_induction commonStart first second with
  | case1 first second c ih => simpa using ih
  | case2 | case3 => simp

/-- Every line that counts starts with the margin. -/
theorem margin?_prefix (found : margin? parts = some margin) (member : line ∈ parts)
    (nonempty : line ≠ []) : margin <+: line.takeWhile isIndent := by
  induction parts generalizing margin with
  | nil => cases member
  | cons first parts ih =>
    rw [margin?] at found
    by_cases empty : first.isEmpty
    · rw [if_pos empty] at found
      refine ih found ((List.mem_cons.mp member).resolve_left ?_)
      rintro rfl
      exact nonempty (List.isEmpty_iff.mp empty)
    · rw [if_neg empty] at found
      cases others : margin? parts with
      | none =>
        cases (List.mem_cons.mp member).resolve_right
          fun later => nonempty ((margin?_eq_none_iff _).mp others line later)
        simp only [others, Option.some_inj] at found
        exact found ▸ List.prefix_rfl
      | some shared =>
        simp only [others, Option.some_inj] at found
        obtain ⟨ofFirst, ofShared⟩ := commonStart_prefix (first.takeWhile isIndent) shared
        rw [← found]
        rcases List.mem_cons.mp member with rfl | later
        · exact ofFirst
        · exact ofShared.trans (ih others later)

/-- **A line keeps its indentation beyond the margin**, also when blanks at its end are dropped. -/
theorem indent_eq_append (solid : isBlankText line = false) (start : margin <+: line.takeWhile isIndent) :
    line.takeWhile isIndent = margin ++ (trimEnd (line.drop margin.length)).takeWhile isIndent ∧
      trimEnd (line.drop margin.length) ≠ [] := by
  have passes : ∀ c ∈ margin, isIndent c = true :=
    fun c member => List.mem_takeWhile_imp (start.subset member)
  obtain ⟨rest, rfl⟩ := start.trans (List.takeWhile_prefix isIndent)
  have blank : isBlankText margin = true :=
    List.all_eq_true.mpr fun c member => isTabOrSpace_isBlank (passes c member)
  have left : trimEnd rest ≠ [] := by
    rw [isBlankText, List.all_append, show margin.all isBlank = true from blank, Bool.true_and] at solid
    intro none_left
    rw [show rest.all isBlank = true from (trimEnd_eq_nil_iff rest).mp none_left] at solid
    cases solid
  rw [List.drop_left, List.takeWhile_append_of_pos passes]
  refine ⟨congrArg (margin ++ ·) ?_, left⟩
  -- What is dropped at the end stands behind a character that is not blank.
  have solidRest : isBlankText (trimEnd rest) = false := by
    rw [← Bool.not_eq_true, ← trimEnd_eq_nil_iff, show trimEnd (trimEnd rest) = trimEnd rest from
      List.rdropWhile_idempotent isBlank rest]
    exact left
  obtain ⟨dropped, whole⟩ : trimEnd rest <+: rest := List.rdropWhile_prefix isBlank rest
  calc rest.takeWhile isIndent = (trimEnd rest ++ dropped).takeWhile isIndent := by rw [whole]
    _ = (trimEnd rest).takeWhile isIndent :=
      takeWhile_append_of_exists dropped (exists_not_indent solidRest)

/-! ### The places of the lines -/

theorem getElem?_of_padded {rows : List (List Char)} {before after index : Nat} (nonempty : line ≠ [])
    (found : (List.replicate before [] ++ rows ++ List.replicate after [])[index]? = some line) :
    ∃ place, index = before + place ∧ rows[place]? = some line := by
  have middle : before ≤ index ∧ index < before + rows.length := by
    grind
  refine ⟨index - before, by omega, ?_⟩
  grind

/-! ### Reading -/

/-- The word of an entry whose lines all stand behind an indentation. -/
def blockWord (key : String) (indent : List Char) (parts : List (List Char)) : List Char :=
  key.toList ++ ':' :: ' ' :: '|' :: below (parts.map (indent ++ ·))

/-- Every line that is not blank is found in the text, less the blanks at its end and a margin that is the
same for all: lines with equal indentations have equal ones in the text. -/
def KeepsIndents (parts : List (List Char)) (text : List Char) : Prop :=
  ∃ lost margin, ∀ (index : Nat) line, parts[index]? = some line → isBlankText line = false →
    ∃ place kept, index = lost + place ∧ (lines text)[place]? = some kept ∧
      kept = trimEnd (line.drop margin.length) ∧ line.takeWhile isIndent = margin ++ kept.takeWhile isIndent

theorem keepsIndents_block (flat : ∀ line ∈ parts, '\n' ∉ line) :
    KeepsIndents parts (stripNewlines (unlines ((dedentLines parts).map trimEnd))) := by
  obtain ⟨before, after, padded⟩ := lines_stripNewlines (unlines ((dedentLines parts).map trimEnd))
  obtain ⟨margin, isMargin⟩ : ∃ margin, (margin? (parts.map clearIndentOnly)).getD [] = margin := ⟨_, rfl⟩
  have dedented := dedentLines_eq parts
  rw [isMargin] at dedented
  refine ⟨before, margin, fun index line isLine solid => ?_⟩
  have member := List.mem_of_getElem? isLine
  have cleared : clearIndentOnly line = line := by
    obtain ⟨c, inLine, fails⟩ := exists_not_indent solid
    refine if_neg fun all => ?_
    rw [show isTabOrSpace c = true from List.all_eq_true.mp all c inLine] at fails
    cases fails
  have start : margin <+: line.takeWhile isIndent := by
    cases found : margin? (parts.map clearIndentOnly) with
    | none => simp [← isMargin, found]
    | some shared =>
      rw [← isMargin, found]
      refine margin?_prefix found (cleared ▸ List.mem_map_of_mem member) ?_
      rintro rfl
      cases solid
  obtain ⟨kept, left⟩ := indent_eq_append solid start
  have rows : lines (unlines ((dedentLines parts).map trimEnd)) = (dedentLines parts).map trimEnd := by
    refine lines_unlines ?_ ?_
    · intro row isRow
      obtain ⟨line, inBlock, rfl⟩ := List.mem_map.mp isRow
      exact fun newline => flat_dedentLines flat line inBlock
        ((List.rdropWhile_prefix isBlank line).subset newline)
    · rw [dedented]
      simpa using List.ne_nil_of_mem member
  have isRow : ((dedentLines parts).map trimEnd)[index]? = some (trimEnd (line.drop margin.length)) := by
    rw [dedented, List.map_map, List.getElem?_map, isLine, Option.map_some, Function.comp_apply, cleared]
  rw [← rows, padded] at isRow
  obtain ⟨place, isPlace, found⟩ := getElem?_of_padded left isRow
  exact ⟨place, _, isPlace, found, rfl, kept⟩

/-- **Re-indenting a block never changes its value**, and its lines keep their indentation relative to each
other, until quotes around a single line are taken off. -/
theorem reindented_block_reads_same (known : key ∈ metadataKeys) (flat : ∀ line ∈ parts, '\n' ∉ line)
    {first second : List Char} (blankFirst : ∀ c ∈ first, isIndent c = true)
    (blankSecond : ∀ c ∈ second, isIndent c = true) (place : Place) :
    entryOf ⟨.entry, blockWord key first parts, place⟩
        = entryOf ⟨.entry, blockWord key second parts, place⟩ ∧
      ∃ text, (entryOf ⟨.entry, blockWord key first parts, place⟩).text = String.ofList (unquote text) ∧
        KeepsIndents parts text := by
  have isKey := isSubject_of_known known
  have isRead : ∀ {indent : List Char}, (∀ c ∈ indent, isIndent c = true) →
      entryOf ⟨.entry, blockWord key indent parts, place⟩ = ⟨key, String.ofList (unquote (stripNewlines
        (unlines ((dedentLines parts).map trimEnd)))), place.line, place.column⟩ := by
    intro indent blank
    have flatRows : ∀ row ∈ parts.map (indent ++ ·), '\n' ∉ row := by
      intro row member
      obtain ⟨line, isLine, rfl⟩ := List.mem_map.mp member
      rw [List.mem_append, not_or]
      exact ⟨fun newline => absurd (blank _ newline) (by decide), flat line isLine⟩
    unfold entryOf blockWord
    simp only [entryKey_append isKey, valueText_append isKey, entryText_below flatRows,
      dedentLines_map_append blank, String.ofList_toList]
  rw [isRead blankFirst, isRead blankSecond]
  exact ⟨rfl, _, rfl, keepsIndents_block flat⟩

/-- A line, an empty one and one that is indented further. -/
def indentedLines : List (List Char) := [[' ', 'a'], [], [' ', ' ', ' ', 'b']]

/-- Behind a tab and behind two blanks, the lines are the same text. -/
theorem indentedLines_read_same :
    entryOf ⟨.entry, blockWord "direction" ['\t'] indentedLines, .first⟩
        = entryOf ⟨.entry, blockWord "direction" [' ', ' '] indentedLines, .first⟩ ∧
      (entryOf ⟨.entry, blockWord "direction" ['\t'] indentedLines, .first⟩).text = "a\n\n  b" :=
  ⟨(reindented_block_reads_same (by decide) (by decide) (List.all_eq_true.mp rfl)
    (List.all_eq_true.mp rfl) .first).1, by decide +kernel⟩

end PromptChain.Source
