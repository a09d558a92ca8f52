/-
**Metadata texts that are read back as they were.**

A metadata text stays on the line of its key or is written as a block below it (`needsBlock`). On the
line of its key it is always read back. In a block it is read back when it satisfies `ReadsBack`: no
line of it ends with a blank, its first and last lines are not empty, its lines have no indentation in
common, it is not a single line between quotes, and no line of it closes the block.

* `readBlock_eq_iff`: the lines of a block give back the text exactly when nothing is trimmed off them;
* `dedentLines_map`: an indentation that all lines are given makes no difference to them;
* `entryText_block`, `entryText_keyLine`: the value that is read from either form;
* `keptByLayout_of_laidOut`: the texts that are laid out plainly are read back from either form.
-/

import Mathlib.Algebra.GroupWithZero.Nat
import PromptChain.Proofs.Continuation
import PromptChain.Source.Units

namespace PromptChain.Source

open Text

variable {indent line text : List Char} {parts : List (List Char)}

/-! ### The common indentation of a block -/

/-- A line whose blanks count for nothing when there is nothing else on it. -/
def solidPart (line : List Char) : List Char := if isBlankText line then [] else line

theorem solidPart_of_blank (blank : isBlankText line = true) :
    solidPart line = [] := if_pos blank

theorem solidPart_of_solid (solid : isBlankText line = false) :
    solidPart line = line := if_neg (by simp [solid])

theorem commonStart_append (start first second : List Char) :
    commonStart (start ++ first) (start ++ second) = start ++ commonStart first second := by
  induction start with
  | nil => rfl
  | cons c start ih => simp [commonStart, ih]

/-- Only empty lines have no indentation. -/
theorem margin?_eq_none_iff (parts : List (List Char)) :
    margin? parts = none ↔ ∀ line ∈ parts, line = [] := by
  induction parts with
  | nil => simp [margin?]
  | cons line parts ih =>
    rw [margin?]
    cases line with
    | nil => simpa using ih
    | cons c line =>
      simp only [List.isEmpty_cons, Bool.false_eq_true, if_false, List.mem_cons, forall_eq_or_imp,
        reduceCtorEq, false_and, iff_false]
      split <;> simp

/-- A line behind an indentation; an empty line stays empty. -/
def indented (indent line : List Char) : List Char := if line.isEmpty then [] else indent ++ line

/-- **The indentation of indented lines** is their own behind the one that they were given. -/
theorem margin?_map_indented (blank : ∀ c ∈ indent, isIndent c = true) (parts : List (List Char)) :
    margin? (parts.map (indented indent)) = (margin? parts).map (indent ++ ·) := by
  induction parts with
  | nil => rfl
  | cons line parts ih =>
    rw [List.map_cons, margin?, margin?, ih]
    cases line with
    | nil => rfl
    | cons c line =>
      have some_char : (indent ++ c :: line).isEmpty = false := by simp
      simp only [indented, List.isEmpty_cons, Bool.false_eq_true, if_false, some_char,
        List.takeWhile_append_of_pos blank]
      cases margin? parts with
      | none => rfl
      | some margin => simp [commonStart_append]

theorem dedentLines_eq (parts : List (List Char)) :
    dedentLines parts = parts.map fun line =>
      (clearIndentOnly line).drop ((margin? (parts.map clearIndentOnly)).getD []).length := by
  simp only [dedentLines]
  cases margin? (parts.map clearIndentOnly) <;> simp

/-- **Lines that are written with an indentation lose it again**, together with their own. -/
theorem dedentLines_map {write own : List Char → List Char} (blank : ∀ c ∈ indent, isIndent c = true)
    (written : ∀ line, clearIndentOnly (write line) = indented indent (own line))
    (parts : List (List Char)) : dedentLines (parts.map write)
      = parts.map fun line => (own line).drop ((margin? (parts.map own)).getD []).length := by
  have cleared : (parts.map write).map clearIndentOnly = (parts.map own).map (indented indent) := by
    rw [List.map_map, List.map_map]
    exact List.map_congr_left fun line _ => written line
  rw [dedentLines_eq, cleared, List.map_map, margin?_map_indented blank]
  refine List.map_congr_left fun line member => ?_
  rw [Function.comp_apply, written]
  cases found : margin? (parts.map own) with
  | none =>
    rw [(margin?_eq_none_iff _).mp found _ (List.mem_map_of_mem member)]
    rfl
  | some margin =>
    cases own line with
    | nil => simp [indented]
    | cons c rest => simp [indented, List.drop_append]

theorem blockLine_eq_indented (line : List Char) :
    blockLine line = indented [' ', ' '] (solidPart line) := by
  unfold blockLine solidPart
  cases line with
  | nil => rfl
  | cons c line => split <;> rfl

theorem clearIndentOnly_blockLine (line : List Char) :
    clearIndentOnly (blockLine line) = blockLine line := by
  unfold clearIndentOnly
  cases solid : isBlankText line with
  | true =>
    rw [blockLine_of_blank solid]
    rfl
  | false =>
    obtain ⟨c, member, fails⟩ := exists_not_indent solid
    refine if_neg ?_
    rw [blockLine_of_solid solid, List.all_eq_true]
    intro indented
    have passes := indented c (List.mem_cons_of_mem _ (List.mem_cons_of_mem _ member))
    rw [show isIndent c = isTabOrSpace c from rfl, fails] at passes
    cases passes

/-- How far the lines of a text are indented together. -/
def sharedIndent (parts : List (List Char)) : Nat := ((margin? (parts.map solidPart)).getD []).length

/-- **A block without its indentation** has the lines of the text without theirs. -/
theorem dedentLines_map_blockLine (parts : List (List Char)) :
    dedentLines (parts.map blockLine)
      = parts.map fun line => (solidPart line).drop (sharedIndent parts) :=
  dedentLines_map (List.all_eq_true.mp rfl)
    (fun line => (clearIndentOnly_blockLine line).trans (blockLine_eq_indented line)) parts

/-! ### Reading a block -/

/-- A line of a block without the indentation that it shares and the blanks at its end. -/
def cutLine (count : Nat) (line : List Char) : List Char := trimEnd ((solidPart line).drop count)

/-- The text that the lines of a block stand for. -/
def readBlock (parts : List (List Char)) : List Char :=
  unquote (stripNewlines (unlines (parts.map (cutLine (sharedIndent parts)))))

theorem flat_dedentLines (whole : ∀ line ∈ parts, '\n' ∉ line) : ∀ line ∈ dedentLines parts, '\n' ∉ line := by
  rw [dedentLines_eq]
  intro line member newline
  obtain ⟨original, found, rfl⟩ := List.mem_map.mp member
  have inCleared := List.mem_of_mem_drop newline
  unfold clearIndentOnly at inCleared
  split at inCleared
  · cases inCleared
  · exact whole original found inCleared

/-- **The value of an entry with lines below it.** -/
theorem entryText_below (whole : ∀ line ∈ parts, '\n' ∉ line) :
    entryText (' ' :: '|' :: below parts)
      = unquote (stripNewlines (unlines ((dedentLines parts).map trimEnd))) := by
  by_cases none_below : parts = []
  · rw [none_below]
    rfl
  have onLine : ∀ c ∈ [' ', '|'], (c != '\n') = true := List.all_eq_true.mp rfl
  have headTaken : (' ' :: '|' :: below parts).takeWhile (· != '\n') = [' ', '|'] :=
    takeWhile_append_stops onLine (lineEnd_below parts)
  have tailLeft : ((' ' :: '|' :: below parts).dropWhile (· != '\n')).drop 1 = unlines parts := by
    rw [show ' ' :: '|' :: below parts = [' ', '|'] ++ below parts from rfl,
      dropWhile_append_stops onLine (lineEnd_below parts), ← newline_cons_unlines none_below]
    rfl
  have bar : trim [' ', '|'] = ['|'] := by decide
  have joined : unlines ((if (unlines parts).isEmpty then [] else lines (dedent (unlines parts))).map
      trimEnd) = unlines ((dedentLines parts).map trimEnd) := by
    have read : lines (unlines parts) = parts := lines_unlines whole none_below
    cases empty : (unlines parts).isEmpty with
    | true =>
      rw [← read, List.isEmpty_iff.mp empty]
      rfl
    | false =>
      rw [if_neg (by simp), dedent, read, lines_unlines (flat_dedentLines whole)]
      rw [dedentLines_eq]
      simpa using none_below
  unfold entryText
  simp only [headTaken, tailLeft, bar]
  rw [if_pos (by decide), List.nil_append, joined]

theorem flat_blockLine (flat : '\n' ∉ line) : '\n' ∉ blockLine line := by
  unfold blockLine
  split
  · exact List.not_mem_nil
  · simpa using flat

/-- **The value of an entry that is written as a block.** -/
theorem entryText_block (whole : ∀ line ∈ parts, '\n' ∉ line) :
    entryText (' ' :: '|' :: blockText parts) = readBlock parts := by
  rw [blockText_eq_below, entryText_below, dedentLines_map_blockLine, List.map_map]
  · rfl
  · intro line member
    obtain ⟨original, found, rfl⟩ := List.mem_map.mp member
    exact flat_blockLine (whole original found)

/-! ### Newlines at either end -/

theorem length_stripNewlines_le (text : List Char) :
    (stripNewlines text).length ≤ text.length := by
  unfold stripNewlines
  rw [dropEndWhile_eq_rdropWhile]
  exact (List.rdropWhile_prefix _ _).length_le.trans (length_dropWhile_le _ _)

theorem lines_newlines_append (count : Nat) (text : List Char) :
    lines (List.replicate count '\n' ++ text) = List.replicate count [] ++ lines text := by
  induction count with
  | zero => rfl
  | succ count ih => rw [List.replicate_succ, List.cons_append, lines, splitOnChar, if_pos rfl, ← lines, ih]; rfl

theorem lines_append_newlines (text : List Char) (count : Nat) :
    lines (text ++ List.replicate count '\n') = lines text ++ List.replicate count [] := by
  cases count with
  | zero => simp
  | succ count =>
    have newlines := lines_newlines_append count []
    rw [List.append_nil, show lines [] = [[]] from rfl, ← List.replicate_succ'] at newlines
    rw [List.replicate_succ, lines, splitOnChar_eq_splitOn, List.splitOn_append_cons_self,
      ← splitOnChar_eq_splitOn, ← splitOnChar_eq_splitOn, ← lines, ← lines, newlines]

/-- **Only empty lines are stripped.** -/
theorem lines_stripNewlines (text : List Char) : ∃ before after,
    lines text = List.replicate before [] ++ lines (stripNewlines text) ++ List.replicate after [] := by
  obtain ⟨before, ahead⟩ : ∃ before, text.takeWhile (· == '\n') = List.replicate before '\n' :=
    ⟨_, List.eq_replicate_of_mem fun c member => by simpa using List.mem_takeWhile_imp member⟩
  obtain ⟨after, behind⟩ : ∃ after,
      (text.dropWhile (· == '\n')).rtakeWhile (· == '\n') = List.replicate after '\n' :=
    ⟨_, List.eq_replicate_of_mem fun c member => by simpa using List.mem_rtakeWhile_imp member⟩
  refine ⟨before, after, ?_⟩
  calc lines text = lines (text.takeWhile (· == '\n') ++ text.dropWhile (· == '\n')) := by
        rw [List.takeWhile_append_dropWhile]
    _ = List.replicate before [] ++ lines (text.dropWhile (· == '\n')) := by
        rw [ahead, lines_newlines_append]
    _ = List.replicate before [] ++ lines (stripNewlines text ++ List.replicate after '\n') := by
        rw [← behind, stripNewlines, dropEndWhile_eq_rdropWhile, List.rdropWhile_append_rtakeWhile]
    _ = _ := by rw [lines_append_newlines, List.append_assoc]

theorem stripNewlines_cons (text : List Char) : stripNewlines ('\n' :: text) = stripNewlines text := by
  rw [stripNewlines, List.dropWhile_cons_of_pos rfl]
  rfl

theorem stripNewlines_concat (text : List Char) : stripNewlines (text ++ ['\n']) = stripNewlines text := by
  simp only [stripNewlines, dropEndWhile_eq_rdropWhile, List.dropWhile_append]
  split
  · rename_i allNewlines
    rw [List.isEmpty_iff.mp allNewlines]
    rfl
  · exact List.rdropWhile_concat_pos _ _ _ rfl

/-- **A text loses no newlines exactly when its first and last lines are not empty.** -/
theorem stripNewlines_eq_self_iff (nonempty : text ≠ []) :
    stripNewlines text = text ↔ (lines text).head? ≠ some [] ∧ (lines text).getLast? ≠ some [] := by
  constructor
  · intro same
    constructor
    · intro isFirst
      obtain ⟨c, rest, rfl⟩ := List.exists_cons_of_ne_nil nonempty
      obtain rfl : c = '\n' := by
        by_contra other
        rw [lines, splitOnChar, if_neg other] at isFirst
        split at isFirst <;> cases isFirst
      have short := length_stripNewlines_le rest
      rw [← stripNewlines_cons, same] at short
      exact absurd short (Nat.not_succ_le_self _)
    · intro isLast
      obtain ⟨before, split⟩ := List.getLast?_eq_some_iff.mp isLast
      have someLine : before ≠ [] := by
        rintro rfl
        exact nonempty (by rw [← unlines_lines text, split]; rfl)
      have flat : ∀ part ∈ before, '\n' ∉ part :=
        fun part member => newline_notMem_of_mem_lines (split ▸ List.mem_append_left _ member)
      have isText : text = unlines before ++ ['\n'] := by
        have again := lines_append_newlines (unlines before) 1
        rw [lines_unlines flat someLine] at again
        rw [← unlines_lines text, split, ← unlines_lines (unlines before ++ ['\n'])]
        exact congrArg unlines again.symm
      have short := length_stripNewlines_le (unlines before)
      rw [← stripNewlines_concat, ← isText, same, isText, List.length_append] at short
      exact absurd short (Nat.not_succ_le_self _)
  · rintro ⟨first, last⟩
    obtain ⟨before, after, padded⟩ := lines_stripNewlines text
    obtain rfl : before = 0 := by
      cases before with
      | zero => rfl
      | succ before => exact absurd (by rw [padded]; rfl) first
    obtain rfl : after = 0 := by
      cases after with
      | zero => rfl
      | succ after => exact absurd (by rw [padded, List.replicate_succ']; simp) last
    simpa [unlines_lines] using (congrArg unlines padded).symm

/-- **The value of an entry that stands on the line of its key.** -/
theorem entryText_keyLine (onLine : needsBlock text = false) :
    entryText (' ' :: text) = text := by
  unfold needsBlock at onLine
  simp only [Bool.or_eq_false_iff, decide_eq_false_iff_not, bne_eq_false_iff_eq, Nat.not_lt] at onLine
  obtain ⟨⟨⟨⟨short, unquoted⟩, notBar⟩, notAngle⟩, trimmed⟩ := onLine
  have flat : '\n' ∉ text := (newline_notMem_iff text).mpr short
  have onLineAll : ∀ c ∈ ' ' :: text, (c != '\n') = true := by
    intro c member
    rw [bne_iff_ne]
    rintro rfl
    rcases List.mem_cons.mp member with wrong | member
    · exact absurd wrong (by decide)
    · exact flat member
  have head : trim (' ' :: text) = text := by
    rw [trim, trimStart, List.dropWhile_cons_of_pos (by decide)]
    exact trimmed
  have endTrimmed : trimEnd text = text := trimEnd_eq_self_of_trim trimmed
  have unquotedText : unquote text = text := by
    unfold unquote
    rw [unquoted, Bool.and_false]
    rfl
  unfold entryText
  simp only [List.takeWhile_eq_self_iff.mpr onLineAll, List.dropWhile_eq_nil_iff.mpr onLineAll, head]
  rw [trimmed] at notBar notAngle
  cases text with
  | nil => rfl
  | cons c text =>
    have stripped := (stripNewlines_eq_self_iff (List.cons_ne_nil c text)).mpr
      (by simp [lines_eq_singleton flat])
    rw [if_neg (by simp [notBar, notAngle])]
    simp [endTrimmed, stripped, unquotedText]

/-! ### When a block gives back its text -/

/-- A metadata text that is read back from its block. -/
structure ReadsBack (text : List Char) : Prop where
  /-- No line ends with a blank. -/
  ends : ∀ line ∈ lines text, trimEnd line = line
  first : (lines text).head? ≠ some []
  last : (lines text).getLast? ≠ some []
  /-- The lines have no indentation in common. -/
  flush : margin? (lines text) = some []
  /-- It is not a single line between quotes. -/
  plain : '\n' ∈ text ∨ isQuotedText text = false
  /-- No line closes the block. -/
  stays : StaysOpen (lines text)

theorem length_unquote_le (text : List Char) : (unquote text).length ≤ text.length := by
  unfold unquote
  split
  · simp only [List.length_dropLast, List.length_drop]
    omega
  · exact Nat.le_refl _

/-- Quotes are kept only where none are taken off. -/
theorem unquote_eq_self_iff (text : List Char) :
    unquote text = text ↔ '\n' ∈ text ∨ isQuotedText text = false := by
  unfold unquote
  by_cases newline : '\n' ∈ text
  · simp [newline]
  · cases quoted : isQuotedText text with
    | false => simp
    | true =>
      have long : 2 ≤ text.length := by
        unfold isQuotedText at quoted
        simp only [Bool.and_eq_true, decide_eq_true_eq] at quoted
        exact quoted.1.1
      have shorter : (text.drop 1).dropLast ≠ text := by
        intro same
        have lengths := congrArg List.length same
        simp only [List.length_dropLast, List.length_drop] at lengths
        omega
      simpa [newline] using shorter

theorem length_unlines (parts : List (List Char)) :
    (unlines parts).length = (parts.map List.length).sum + (parts.length - 1) := by
  induction parts with
  | nil => rfl
  | cons line parts ih =>
    cases parts with
    | nil => simp
    | cons next parts =>
      rw [unlines_cons_cons, List.length_append, List.length_cons, ih]
      simp only [List.map_cons, List.sum_cons, List.length_cons]
      omega

theorem sum_length_map_le {cut : List Char → List Char}
    (shorter : ∀ line ∈ parts, (cut line).length ≤ line.length) :
    ((parts.map cut).map List.length).sum ≤ (parts.map List.length).sum := by
  induction parts with
  | nil => exact Nat.le_refl _
  | cons line parts ih =>
    have first := shorter line List.mem_cons_self
    have others := ih (List.forall_mem_cons.mp shorter).2
    simp only [List.map_cons, List.sum_cons]
    omega

/-- Lines that lose nothing in all lose nothing each. -/
theorem length_eq_of_sum_le {cut : List Char → List Char}
    (shorter : ∀ line ∈ parts, (cut line).length ≤ line.length)
    (total : (parts.map List.length).sum ≤ ((parts.map cut).map List.length).sum) :
    ∀ line ∈ parts, (cut line).length = line.length := by
  induction parts with
  | nil => simp
  | cons line parts ih =>
    simp only [List.map_cons, List.sum_cons] at total
    have shorterRest := fun other member => shorter other (List.mem_cons_of_mem line member)
    have first := shorter line List.mem_cons_self
    have others := sum_length_map_le shorterRest
    intro other member
    rcases List.mem_cons.mp member with rfl | later
    · omega
    · exact ih shorterRest (by omega) other later

theorem length_solidPart_le (line : List Char) : (solidPart line).length ≤ line.length := by
  unfold solidPart
  split <;> simp

theorem solidPart_of_trimEnd (ends : trimEnd line = line) :
    solidPart line = line := by
  cases solid : isBlankText line with
  | true => rw [solidPart_of_blank solid, ← ends, (trimEnd_eq_nil_iff line).mpr solid]
  | false => exact solidPart_of_solid solid

theorem length_cutLine_le (count : Nat) (line : List Char) :
    (cutLine count line).length ≤ line.length := by
  calc (cutLine count line).length ≤ ((solidPart line).drop count).length := length_trimEnd_le _
    _ ≤ (solidPart line).length := by rw [List.length_drop]; exact Nat.sub_le _ _
    _ ≤ line.length := length_solidPart_le line

/-- A line that loses nothing has no blank at its end, and is empty or loses no indentation. -/
theorem length_cutLine_eq {count : Nat} (kept : (cutLine count line).length = line.length) :
    trimEnd line = line ∧ (line = [] ∨ count = 0) := by
  by_cases empty : line = []
  · rw [empty]
    exact ⟨rfl, Or.inl rfl⟩
  · have positive := List.length_pos_iff.mpr empty
    have dropped : (cutLine count line).length ≤ (solidPart line).length - count := by
      rw [← List.length_drop]
      exact length_trimEnd_le _
    have bound := length_solidPart_le line
    have none_dropped : count = 0 := by omega
    have solid : isBlankText line = false := by
      by_contra blank
      rw [solidPart_of_blank (by simpa using blank), List.length_nil] at dropped
      omega
    rw [cutLine, none_dropped, List.drop_zero, solidPart_of_solid solid] at kept
    exact ⟨(List.rdropWhile_prefix isBlank line).eq_of_length kept, Or.inr none_dropped⟩

theorem cutLine_eq_self {count : Nat} (ends : trimEnd line = line) (unindented : line = [] ∨ count = 0) :
    cutLine count line = line := by
  unfold cutLine
  rw [solidPart_of_trimEnd ends]
  rcases unindented with rfl | rfl
  · rw [List.drop_nil]
    rfl
  · rw [List.drop_zero, ends]

theorem stripNewlines_eq_self_of_length (long : text.length ≤ (stripNewlines text).length) :
    stripNewlines text = text := by
  unfold stripNewlines at long ⊢
  rw [dropEndWhile_eq_rdropWhile] at long ⊢
  have start : text.dropWhile (· == '\n') = text :=
    (List.dropWhile_suffix _).eq_of_length_le (long.trans (List.rdropWhile_prefix _ _).length_le)
  rw [start] at long ⊢
  exact (List.rdropWhile_prefix _ _).eq_of_length_le long

/-- **A block gives back its text exactly when nothing is taken off it**: no blank at the end of a
line, no empty line at either end, no common indentation and no quotes. -/
theorem readBlock_eq_iff (nonempty : text ≠ []) :
    readBlock (lines text) = text ↔
      (∀ line ∈ lines text, trimEnd line = line) ∧ (lines text).head? ≠ some [] ∧
        (lines text).getLast? ≠ some [] ∧ margin? (lines text) = some [] ∧
        ('\n' ∈ text ∨ isQuotedText text = false) := by
  have solid : (∀ line ∈ lines text, trimEnd line = line) →
      (lines text).map solidPart = lines text := by
    intro ends
    rw [List.map_congr_left fun line member => solidPart_of_trimEnd (ends line member), List.map_id']
  unfold readBlock
  constructor
  · intro back
    -- Every step of reading only shortens, so a text that comes back whole was never shortened.
    have shorter := fun line (_ : line ∈ lines text) =>
      length_cutLine_le (sharedIndent (lines text)) line
    have cutSize := length_unlines ((lines text).map (cutLine (sharedIndent (lines text))))
    have size := length_unlines (lines text)
    have strip := length_stripNewlines_le
      (unlines ((lines text).map (cutLine (sharedIndent (lines text)))))
    have quotes := length_unquote_le
      (stripNewlines (unlines ((lines text).map (cutLine (sharedIndent (lines text))))))
    rw [back] at quotes
    rw [unlines_lines] at size
    rw [List.length_map] at cutSize
    have kept := fun line member =>
      length_cutLine_eq (length_eq_of_sum_le shorter (by omega) line member)
    have whole : (lines text).map (cutLine (sharedIndent (lines text))) = lines text := by
      rw [List.map_congr_left fun line member => cutLine_eq_self (kept line member).1
        (kept line member).2, List.map_id']
    rw [whole, unlines_lines] at back quotes
    have stripped := stripNewlines_eq_self_of_length quotes
    rw [stripped] at back
    obtain ⟨first, last⟩ := (stripNewlines_eq_self_iff nonempty).mp stripped
    refine ⟨fun line member => (kept line member).1, first, last, ?_, (unquote_eq_self_iff text).mp back⟩
    obtain ⟨line, isFirst⟩ := Option.isSome_iff_exists.mp
      (List.isSome_head?.mpr (lines_ne_nil text))
    have member := List.mem_of_mem_head? isFirst
    have solidLine : line ≠ [] := fun empty => first (empty ▸ isFirst)
    have unshared := (kept line member).2.resolve_left solidLine
    rw [sharedIndent, solid fun line member => (kept line member).1] at unshared
    cases found : margin? (lines text) with
    | none => exact absurd ((margin?_eq_none_iff _).mp found line member) solidLine
    | some margin =>
      rw [found, Option.getD_some] at unshared
      rw [List.eq_nil_of_length_eq_zero unshared]
  · rintro ⟨ends, first, last, flush, plain⟩
    have unshared : sharedIndent (lines text) = 0 := by
      rw [sharedIndent, solid ends, flush]
      rfl
    have whole : (lines text).map (cutLine (sharedIndent (lines text))) = lines text := by
      rw [List.map_congr_left fun line member => cutLine_eq_self (ends line member)
        (Or.inr unshared), List.map_id']
    rw [whole, unlines_lines, (stripNewlines_eq_self_iff nonempty).mpr ⟨first, last⟩,
      (unquote_eq_self_iff text).mpr plain]

/-! ### Texts that are laid out plainly -/

/-- A text of several lines that is read back whatever its layout: no line ends with a blank, the
first and the last are not empty, one of them starts with neither a blank nor a tab, and none closes
the block. -/
structure PlainLines (text : List Char) : Prop where
  several : 1 < (lines text).length
  first : (lines text).head? ≠ some []
  last : (lines text).getLast? ≠ some []
  ends : ∀ line ∈ lines text, trimEnd line = line
  flush : ∃ line ∈ lines text, ∃ c ∈ line.head?, isTabOrSpace c = false
  stays : StaysOpen (lines text)

/-- A metadata text that stays on the line of its key, is a lone block mark, or has plain lines. -/
def LaidOut (text : List Char) : Prop :=
  needsBlock text = false ∨ (text = ['|'] ∨ text = ['>']) ∨ PlainLines text

/-- A line that starts with neither blank nor tab leaves no indentation in common. -/
theorem margin?_eq_some_nil (member : line ∈ parts) {c : Char} (start : c ∈ line.head?)
    (flush : isTabOrSpace c = false) :
    margin? parts = some [] := by
  induction parts with
  | nil => cases member
  | cons other parts ih =>
    rw [margin?]
    rcases List.mem_cons.mp member with rfl | later
    · cases line with
      | nil => cases start
      | cons d line =>
        cases start
        have noIndent : (c :: line).takeWhile isIndent = [] :=
          List.takeWhile_cons_of_neg (by rw [show isIndent c = isTabOrSpace c from rfl, flush]; simp)
        simp only [List.isEmpty_cons, Bool.false_eq_true, if_false, noIndent]
        cases margin? parts with
        | none => rfl
        | some margin => rfl
    · rw [ih later]
      split
      · rfl
      · simp only [Option.some.injEq]
        unfold commonStart
        split
        · rename_i nothing
          cases nothing
        · rfl

theorem readsBack_of_plainLines (plain : PlainLines text) : ReadsBack text where
  ends := plain.ends
  first := plain.first
  last := plain.last
  flush := by
    obtain ⟨line, member, c, start, flush⟩ := plain.flush
    exact margin?_eq_some_nil member start flush
  plain := by
    left
    by_contra flat
    have single := (newline_notMem_iff text).mp flat
    have several := plain.several
    omega
  stays := plain.stays

theorem readsBack_bar : ReadsBack ['|'] :=
  ⟨by decide, by decide, by decide, by decide, by decide, by decide⟩

theorem readsBack_angle : ReadsBack ['>'] :=
  ⟨by decide, by decide, by decide, by decide, by decide, by decide⟩

/-- What is kept when a metadata text is written and read again: it stays on the line of its key, or
is read back from its block. -/
def KeptByLayout (text : List Char) : Prop := needsBlock text = false ∨ ReadsBack text

/-- **A text that is laid out plainly is kept.** -/
theorem keptByLayout_of_laidOut (laid : LaidOut text) : KeptByLayout text := by
  rcases laid with onLine | (rfl | rfl) | plain
  · exact Or.inl onLine
  · exact Or.inr readsBack_bar
  · exact Or.inr readsBack_angle
  · exact Or.inr (readsBack_of_plainLines plain)

end PromptChain.Source
